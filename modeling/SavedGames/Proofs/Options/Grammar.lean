import Mathlib
import SavedGames.Proofs.Options.Canonical
import SavedGames.Proofs.Options.RawValue

/-!
# The grammar of packed options

A text is read as options exactly if it is empty or the pieces between its commas are pairs with
different keys. Each option is what the raw value of its pair spells, so the order of the pairs does
not matter.
-/
namespace SavedGames

/-- The fault is, alone or in a pair, that a text would be read back as something else. -/
def OptionsFault.IsAmbiguity : OptionsFault → Prop
  | ambiguousText _ => True
  | badPair _ fault => fault.IsAmbiguity
  | _ => False

namespace Options

/-- One to eight upper-case letters, digits and underscores. -/
structure KeyText (cs : List Char) : Prop where
  length : 1 ≤ cs.length ∧ cs.length ≤ 8
  chars : ∀ c ∈ cs, 'A' ≤ c ∧ c ≤ 'Z' ∨ '0' ≤ c ∧ c ≤ '9' ∨ c = '_'

/-- What stands before the first equals sign. -/
def keyOf (piece : List Char) : List Char := piece.takeWhile (· != '=')

/-- What stands behind the first equals sign. -/
def rawOf (piece : List Char) : List Char := (piece.dropWhile (· != '=')).tail

/-- A key and a raw value, with the only equals sign between them. -/
structure IsPair (piece : List Char) : Prop where
  once : piece.count '=' = 1
  key : KeyText (keyOf piece)

/-- The pieces between the commas are pairs, and no key comes twice. -/
structure Grammatical (packed : String) : Prop where
  pairs : ∀ piece ∈ packed.toList.splitOn ',', IsPair piece
  distinct : ((packed.toList.splitOn ',').map keyOf).Nodup

/-- The key of a piece, and what its raw value stands for. -/
def entryOf (piece : List Char) : String × Setting :=
  (String.ofList (keyOf piece), Setting.unpack (rawOf piece))

theorem isKey_iff {cs : List Char} : isKey (String.ofList cs) = true ↔ KeyText cs := by
  have char (c : Char) : isKeyChar c = true ↔
      'A' ≤ c ∧ c ≤ 'Z' ∨ '0' ≤ c ∧ c ≤ '9' ∨ c = '_' := by
    simp [isKeyChar, Char.isUpper, Char.isDigit, Char.le_def, or_assoc]
  have all : cs.all isKeyChar = true ↔
      ∀ c ∈ cs, 'A' ≤ c ∧ c ≤ 'Z' ∨ '0' ≤ c ∧ c ≤ '9' ∨ c = '_' := by
    simp only [List.all_eq_true, char]
  have length : (String.ofList cs).length = cs.length := String.length_ofList
  constructor
  · intro h
    simp only [isKey, length, String.toList_ofList, Bool.and_eq_true, decide_eq_true_eq, all] at h
    exact ⟨⟨h.1.1, h.1.2⟩, h.2⟩
  · intro h
    simp only [isKey, length, String.toList_ofList, Bool.and_eq_true, decide_eq_true_eq, all]
    exact ⟨⟨h.length.1, h.length.2⟩, h.chars⟩

section Pieces

variable {key raw piece : List Char}

theorem bne_equals (h : '=' ∉ key) : ∀ c ∈ key, (c != '=') = true := fun _ hc =>
  bne_iff_ne.mpr fun same => h (same ▸ hc)

theorem keyOf_append (h : '=' ∉ key) : keyOf (key ++ '=' :: raw) = key := by
  rw [keyOf, List.takeWhile_append_of_pos (bne_equals h),
    List.takeWhile_cons_of_neg (by decide), List.append_nil]

theorem rawOf_append (h : '=' ∉ key) : rawOf (key ++ '=' :: raw) = raw := by
  rw [rawOf, List.dropWhile_append_of_pos (bne_equals h),
    List.dropWhile_cons_of_neg (by decide), List.tail_cons]

theorem splitPair?_eq_none (h : '=' ∉ piece) : splitPair? piece = none := by
  induction piece with
  | nil => rfl
  | cons c piece ih =>
    obtain ⟨here, others⟩ := not_or.mp (List.mem_cons.not.mp h)
    rw [splitPair?, if_neg (Ne.symm here), ih others, Option.map_none]

theorem isPair_append (h : '=' ∉ key) :
    IsPair (key ++ '=' :: raw) ↔ KeyText key ∧ '=' ∉ raw := by
  have count : (key ++ '=' :: raw).count '=' = raw.count '=' + 1 := by
    simp [List.count_eq_zero.mpr h]
  constructor
  · rintro ⟨once, keyText⟩
    rw [keyOf_append h] at keyText
    exact ⟨keyText, List.count_eq_zero.mp (by omega)⟩
  · rintro ⟨keyText, plain⟩
    refine ⟨?_, by rwa [keyOf_append h]⟩
    rw [count, List.count_eq_zero.mpr plain]

/-- The only equals sign of a pair stands between its key and its raw value. -/
theorem IsPair.split (pair : IsPair piece) :
    ∃ key raw, piece = key ++ '=' :: raw ∧ '=' ∉ key ∧ '=' ∉ raw := by
  have equals : '=' ∈ piece := List.count_pos_iff.mp (by rw [pair.once]; exact Nat.one_pos)
  obtain ⟨key, raw, rfl, new⟩ := List.eq_append_cons_of_mem equals
  exact ⟨key, raw, rfl, new, ((isPair_append new).mp pair).2⟩

theorem pieces_eq_splitOn (cs : List Char) : pieces cs = cs.splitOn ',' := by
  induction cs with
  | nil => rfl
  | cons c cs ih =>
    rw [List.splitOn_eq_splitOnP, List.splitOnP_cons_eq_if_modifyHead, ← List.splitOn_eq_splitOnP,
      ← ih, pieces]
    by_cases comma : c = ','
    · rw [if_pos comma, if_pos (by simpa using comma)]
    · rw [if_neg comma, if_neg (by simpa using comma)]
      cases split : pieces cs with
      | nil => exact absurd (ih ▸ split) (List.splitOn_ne_nil ',' cs)
      | cons piece rest => rfl

theorem comma_not_mem_pieces {cs : List Char} : ∀ piece ∈ pieces cs, ',' ∉ piece := by
  induction cs with
  | nil => simp [pieces]
  | cons c cs ih =>
    rw [pieces]
    by_cases comma : c = ','
    · rw [if_pos comma]
      exact List.forall_mem_cons.mpr ⟨List.not_mem_nil, ih⟩
    · rw [if_neg comma]
      cases split : pieces cs with
      | nil => simp [Ne.symm comma]
      | cons piece rest =>
        obtain ⟨here, others⟩ := List.forall_mem_cons.mp (split ▸ ih)
        exact List.forall_mem_cons.mpr ⟨by simp [here, Ne.symm comma], others⟩

end Pieces

section Parsing

variable {o next : Options} {packed : String}

/-- A raw value without an equals sign is taken, since its piece contains no comma. -/
theorem isPackable_unpack {raw : List Char} (noComma : ',' ∉ raw) :
    (Setting.unpack raw).isPackable = true ↔ '=' ∉ raw := by
  rw [Setting.isPackable, Setting.isAmbiguous_unpack, (Setting.spells_unpack raw).hasSeparator_eq]
  simp only [Setting.isSeparator, Bool.not_false, Bool.and_true, Bool.not_eq_true',
    List.any_eq_false, Bool.or_eq_true, beq_iff_eq, not_or]
  constructor
  · exact fun plain mem => (plain '=' mem).2 rfl
  · exact fun plain c hc => ⟨fun comma => noComma (comma ▸ hc), fun equals => plain (equals ▸ hc)⟩

/-- The step: a piece is taken if it is a pair with a new key. -/
theorem parsePiece_eq_ok {piece : List Char} (noComma : ',' ∉ piece) :
    parsePiece packed o piece = .ok next ↔
      IsPair piece ∧ o.get? (entryOf piece).1 = none ∧ next = o.set (entryOf piece) := by
  by_cases equals : '=' ∈ piece
  · obtain ⟨key, raw, rfl, new⟩ := List.eq_append_cons_of_mem equals
    have plain : ',' ∉ raw := fun mem => noComma (by simp [mem])
    have taken : ((insert (String.ofList key) (Setting.unpack raw)).changed o).mapError
        (OptionsFault.badPair packed) = .ok next ↔
          KeyText key ∧ '=' ∉ raw ∧ next = o.set (String.ofList key, Setting.unpack raw) := by
      rw [← isKey_iff, ← isPackable_unpack plain, ← insert_eq_ok, ← Change.changed_eq_ok]
      cases (insert (String.ofList key) (Setting.unpack raw)).changed o <;> simp [Except.mapError]
    rw [parsePiece, splitPair?_eq new, isPair_append new, entryOf, keyOf_append new,
      rawOf_append new, and_assoc]
    have known : o.settings.contains (String.ofList key) = (o.get? (String.ofList key)).isSome :=
      TextMap.contains_eq _ _
    simp only [known]
    cases o.get? (String.ofList key) <;> simp [taken]
  · have noPair : ¬ IsPair piece := fun pair => by
      have once := pair.once
      rw [List.count_eq_zero.mpr equals] at once
      cases once
    simp [parsePiece, splitPair?_eq_none equals, noPair]

theorem entryOf_fits {piece : List Char} (noComma : ',' ∉ piece) (pair : IsPair piece) :
    isKey (entryOf piece).1 = true ∧ (entryOf piece).2.isPackable = true := by
  obtain ⟨key, raw, rfl, new, plain⟩ := pair.split
  obtain ⟨keyText, -⟩ := (isPair_append new).mp pair
  rw [entryOf, keyOf_append new, rawOf_append new]
  exact ⟨isKey_iff.mpr keyText, (isPackable_unpack fun mem => noComma (by simp [mem])).mpr plain⟩

theorem parsePieces_cons_eq_ok {piece : List Char} {ps : List (List Char)} :
    parsePieces packed o (piece :: ps) = .ok next ↔
      ∃ mid, parsePiece packed o piece = .ok mid ∧ parsePieces packed mid ps = .ok next := by
  rw [parsePieces]
  cases parsePiece packed o piece <;> simp

/-- By induction on the pieces: a key that was taken is not free for the pieces behind it. -/
theorem parsePieces_eq_ok {ps : List (List Char)} (noComma : ∀ piece ∈ ps, ',' ∉ piece) :
    parsePieces packed o ps = .ok next ↔
      (∀ piece ∈ ps, IsPair piece) ∧ ((ps.map entryOf).map Prod.fst).Nodup ∧
        (∀ piece ∈ ps, o.get? (entryOf piece).1 = none) ∧ next = o.setAll (ps.map entryOf) := by
  induction ps generalizing o with
  | nil => simp [parsePieces, setAll, eq_comm]
  | cons piece ps ih =>
    obtain ⟨here, others⟩ := List.forall_mem_cons.mp noComma
    -- once a piece is taken, the pieces behind it are free if they were and have another key
    have free (pair : IsPair piece) :
        (∀ p ∈ ps, (o.set (entryOf piece)).get? (entryOf p).1 = none) ↔
          (entryOf piece).1 ∉ (ps.map entryOf).map Prod.fst ∧
            ∀ p ∈ ps, o.get? (entryOf p).1 = none := by
      have one (p : List Char) : (o.set (entryOf piece)).get? (entryOf p).1 = none ↔
          (entryOf p).1 ≠ (entryOf piece).1 ∧ o.get? (entryOf p).1 = none := by
        rw [get?_set (entryOf_fits here pair)]
        by_cases same : (entryOf piece).1 = (entryOf p).1
        · simp [same]
        · simp [same, Ne.symm same]
      simp only [one, forall₂_and, List.map_map, List.mem_map, Function.comp_apply, not_exists,
        not_and, ne_eq]
    rw [parsePieces_cons_eq_ok, List.forall_mem_cons, List.forall_mem_cons, List.map_cons,
      List.map_cons, List.nodup_cons]
    constructor
    · rintro ⟨mid, first, rest⟩
      obtain ⟨pair, new, rfl⟩ := (parsePiece_eq_ok here).mp first
      obtain ⟨pairs, distinct, fresh, rfl⟩ := (ih others).mp rest
      obtain ⟨single, fresh⟩ := (free pair).mp fresh
      exact ⟨⟨pair, pairs⟩, ⟨single, distinct⟩, ⟨new, fresh⟩, rfl⟩
    · rintro ⟨⟨pair, pairs⟩, ⟨single, distinct⟩, ⟨new, fresh⟩, rfl⟩
      exact ⟨_, (parsePiece_eq_ok here).mpr ⟨pair, new, rfl⟩,
        (ih others).mpr ⟨pairs, distinct, (free pair).mpr ⟨single, fresh⟩, rfl⟩⟩

theorem nodup_keys_iff (ps : List (List Char)) :
    ((ps.map entryOf).map Prod.fst).Nodup ↔ (ps.map keyOf).Nodup := by
  have keys : (ps.map entryOf).map Prod.fst = (ps.map keyOf).map String.ofList := by
    rw [List.map_map, List.map_map]
    rfl
  rw [keys, List.nodup_map_iff fun _ _ => String.ofList_injective]

theorem get?_setAll {es : List (String × Setting)}
    (fits : ∀ e ∈ es, isKey e.1 = true ∧ e.2.isPackable = true) (distinct : (es.map Prod.fst).Nodup)
    (fresh : ∀ e ∈ es, o.get? e.1 = none) {key : String} {s : Setting} :
    (o.setAll es).get? key = some s ↔ (key, s) ∈ es ∨ o.get? key = some s := by
  induction es generalizing o with
  | nil => simp [setAll]
  | cons e es ih =>
    obtain ⟨fit, fits⟩ := List.forall_mem_cons.mp fits
    obtain ⟨single, distinct⟩ := List.nodup_cons.mp distinct
    obtain ⟨free, fresh⟩ := List.forall_mem_cons.mp fresh
    have stillFresh : ∀ d ∈ es, (o.set e).get? d.1 = none := by
      intro d hd
      have other : e.1 ≠ d.1 := fun same => single (same ▸ List.mem_map_of_mem hd)
      rw [get?_set fit, if_neg other, fresh d hd]
    have step : o.setAll (e :: es) = (o.set e).setAll es := rfl
    rw [step, ih fits distinct stillFresh, get?_set fit, List.mem_cons, or_comm (a := _ = e),
      or_assoc]
    refine or_congr_right ?_
    by_cases here : e.1 = key
    · obtain rfl := here
      rw [if_pos rfl, free, Option.some.injEq]
      simp [Prod.ext_iff, eq_comm]
    · rw [if_neg here]
      simp [Prod.ext_iff, Ne.symm here]

theorem get?_empty (key : String) : empty.get? key = none := rfl

theorem not_grammatical_empty : ¬ Grammatical "" := by
  intro grammatical
  have once := (grammatical.pairs [] (by simp)).once
  cases once

/-- A text that is read is empty or belongs to the grammar, and its pieces are set in order. -/
theorem parse_eq_ok :
    parse packed = .ok o ↔
      packed = "" ∧ o = empty ∨
        Grammatical packed ∧ o = empty.setAll ((packed.toList.splitOn ',').map entryOf) := by
  by_cases blank : packed = ""
  · subst blank
    simp [parse, not_grammatical_empty, eq_comm]
  · have filled : packed.toList ≠ [] := by simpa using blank
    rw [parse, if_neg filled, parsePieces_eq_ok comma_not_mem_pieces, pieces_eq_splitOn,
      nodup_keys_iff]
    constructor
    · rintro ⟨pairs, distinct, -, rfl⟩
      exact .inr ⟨⟨pairs, distinct⟩, rfl⟩
    · rintro (⟨empty, -⟩ | ⟨grammatical, rfl⟩)
      · exact absurd empty blank
      · exact ⟨grammatical.pairs, grammatical.distinct, fun _ _ => get?_empty _, rfl⟩

end Parsing

section Faults

variable {o : Options} {packed : String} {fault : OptionsFault}

theorem fault_of_insert_unpack {key : String} {raw : List Char}
    (h : (insert key (Setting.unpack raw)).changed o = .error fault) : ¬ fault.IsAmbiguity := by
  obtain ⟨kept, refused⟩ := Change.changed_eq_error.mp h
  unfold insert at refused
  split at refused
  · split at refused
    · cases refused
    · rename_i unpackable
      have separated : (Setting.unpack raw).hasSeparator = true := by
        simpa [Setting.isPackable, Setting.isAmbiguous_unpack] using unpackable
      simp only [separated, if_true] at refused
      obtain rfl := Except.error.inj (Prod.mk.inj refused).1
      exact id
  · obtain rfl := Except.error.inj (Prod.mk.inj refused).1
    exact id

theorem fault_of_parsePiece {piece : List Char} (h : parsePiece packed o piece = .error fault) :
    ¬ fault.IsAmbiguity := by
  simp only [parsePiece] at h
  split at h
  · obtain rfl := Except.error.inj h
    exact id
  · split at h
    · obtain rfl := Except.error.inj h
      exact id
    · rename_i key raw _ _
      cases inserted : (insert (String.ofList key) (Setting.unpack raw)).changed o with
      | ok next =>
        rw [inserted] at h
        cases h
      | error inner =>
        rw [inserted] at h
        obtain rfl := Except.error.inj h
        rw [OptionsFault.IsAmbiguity]
        exact fault_of_insert_unpack inserted

theorem fault_of_parsePieces {ps : List (List Char)} (h : parsePieces packed o ps = .error fault) :
    ¬ fault.IsAmbiguity := by
  induction ps generalizing o with
  | nil => cases h
  | cons piece ps ih =>
    rw [parsePieces] at h
    cases first : parsePiece packed o piece with
    | ok mid =>
      rw [first] at h
      exact ih h
    | error inner =>
      rw [first] at h
      obtain rfl := Except.error.inj h
      exact fault_of_parsePiece first

end Faults

theorem equals_not_mem_key {key raw : List Char} (h : IsPair (key ++ '=' :: raw)) : '=' ∉ key := by
  have once := h.once
  rw [List.count_append, List.count_cons_self] at once
  exact List.count_eq_zero.mp (by omega)

theorem mem_entries_iff {pieces : List (List Char)} (pairs : ∀ piece ∈ pieces, IsPair piece)
    {key : String} {s : Setting} :
    (key, s) ∈ pieces.map entryOf ↔ ∃ raw, key.toList ++ '=' :: raw ∈ pieces ∧ s.Spells raw := by
  rw [List.mem_map]
  constructor
  · rintro ⟨piece, mem, entry⟩
    obtain ⟨front, raw, rfl, new, -⟩ := (pairs piece mem).split
    rw [entryOf, keyOf_append new, rawOf_append new] at entry
    obtain ⟨rfl, rfl⟩ := Prod.mk.inj entry
    exact ⟨raw, by rwa [String.toList_ofList], Setting.spells_unpack raw⟩
  · rintro ⟨raw, mem, spells⟩
    have new := equals_not_mem_key (pairs _ mem)
    refine ⟨_, mem, ?_⟩
    rw [entryOf, keyOf_append new, rawOf_append new, String.ofList_toList,
      Setting.unpack_eq_iff.mpr spells]

/-- The options of a text are those that its pieces spell. -/
theorem get?_of_parse {packed : String} {o : Options} (h : parse packed = .ok o) (key : String)
    (s : Setting) :
    o.get? key = some s ↔
      ∃ raw, key.toList ++ '=' :: raw ∈ packed.toList.splitOn ',' ∧ s.Spells raw := by
  rcases parse_eq_ok.mp h with ⟨rfl, rfl⟩ | ⟨grammatical, rfl⟩
  · simp [get?_empty]
  · have fits : ∀ e ∈ (packed.toList.splitOn ',').map entryOf,
        isKey e.1 = true ∧ e.2.isPackable = true := by
      refine List.forall_mem_map.mpr fun piece mem => ?_
      have noComma := comma_not_mem_pieces piece (pieces_eq_splitOn packed.toList ▸ mem)
      exact entryOf_fits noComma (grammatical.pairs piece mem)
    have distinct := (nodup_keys_iff _).mpr grammatical.distinct
    rw [get?_setAll fits distinct fun _ _ => get?_empty _, get?_empty,
      mem_entries_iff grammatical.pairs, or_iff_left (Option.some_ne_none s).symm]

theorem grammatical_of_perm {packed other : String} (h : Grammatical packed)
    (perm : (other.toList.splitOn ',').Perm (packed.toList.splitOn ',')) : Grammatical other where
  pairs piece mem := h.pairs piece (perm.mem_iff.mp mem)
  distinct := ((perm.map keyOf).nodup_iff).mpr h.distinct

/-- The options of a text do not depend on the order of its pieces. -/
theorem parse_of_perm {packed other : String} {o : Options} (h : parse packed = .ok o)
    (perm : (other.toList.splitOn ',').Perm (packed.toList.splitOn ',')) : parse other = .ok o := by
  obtain ⟨p, read⟩ : ∃ p, parse other = .ok p := by
    rcases parse_eq_ok.mp h with ⟨rfl, -⟩ | ⟨grammatical, -⟩
    · have single : other.toList.splitOn ',' = [[]] := List.perm_singleton.mp (by simpa using perm)
      have blank : other.toList = [] := by
        have joined : [','].intercalate (other.toList.splitOn ',') = other.toList :=
          List.intercalate_splitOn ','
        rw [single] at joined
        exact joined.symm
      exact ⟨empty, parse_eq_ok.mpr (.inl ⟨by simpa using blank, rfl⟩)⟩
    · exact ⟨_, parse_eq_ok.mpr (.inr ⟨grammatical_of_perm grammatical perm, rfl⟩)⟩
  have same : p = o := by
    refine ext_settings (TextMap.ext_get? fun key => Option.ext fun s => ?_)
    refine (get?_of_parse read key s).trans (Iff.trans ?_ (get?_of_parse h key s).symm)
    simp only [perm.mem_iff]
  rw [read, same]

/-- A text is read if it is empty or belongs to the grammar, and its options are what its pieces
spell, in whatever order. None is refused because a value would be read back as something else. -/
theorem parse_reads_grammar (packed : String) :
    ((∃ o, parse packed = .ok o) ↔ packed = "" ∨ Grammatical packed) ∧
      (∀ o, parse packed = .ok o →
        (∀ key s, o.get? key = some s ↔
          ∃ raw, key.toList ++ '=' :: raw ∈ packed.toList.splitOn ',' ∧ s.Spells raw) ∧
        ∀ other : String, (other.toList.splitOn ',').Perm (packed.toList.splitOn ',') →
          parse other = .ok o) ∧
      (∀ raw, (Setting.unpack raw).isAmbiguous = false) ∧
      ∀ fault, parse packed = .error fault → ¬ fault.IsAmbiguity := by
  refine ⟨⟨?_, ?_⟩, fun o read => ⟨get?_of_parse read, fun other => parse_of_perm read⟩,
    Setting.isAmbiguous_unpack, fun fault failed => ?_⟩
  · rintro ⟨o, read⟩
    rcases parse_eq_ok.mp read with ⟨blank, -⟩ | ⟨grammatical, -⟩
    · exact .inl blank
    · exact .inr grammatical
  · rintro (blank | grammatical)
    · exact ⟨empty, parse_eq_ok.mpr (.inl ⟨blank, rfl⟩)⟩
    · exact ⟨_, parse_eq_ok.mpr (.inr ⟨grammatical, rfl⟩)⟩
  · unfold parse at failed
    split at failed
    · cases failed
    · exact fault_of_parsePieces failed

/-- A number with a needless sign and zero, an empty text, and a number with a flag. -/
theorem mixed_text_read :
    ∃ o, parse "PL=+04,SC=,RD=t-7" = .ok o ∧ Grammatical "PL=+04,SC=,RD=t-7" ∧
      o.get? "PL" = some (.number 4) ∧ o.get? "SC" = some (.text "") ∧
      o.get? "RD" = some (.flaggedNumber true (-7)) ∧ parse "RD=t-7,PL=+04,SC=" = .ok o := by
  obtain ⟨accepted, content, -, -⟩ := parse_reads_grammar "PL=+04,SC=,RD=t-7"
  have found : (parse "PL=+04,SC=,RD=t-7").toOption.isSome = true := by decide +kernel
  cases read : parse "PL=+04,SC=,RD=t-7" with
  | error fault =>
    rw [read] at found
    cases found
  | ok o =>
    obtain ⟨settings, order⟩ := content o read
    refine ⟨o, rfl, (accepted.mp ⟨o, read⟩).resolve_left (by decide), ?_, ?_, ?_, ?_⟩
    · exact (settings "PL" _).mpr ⟨['+', '0', '4'], by decide, Setting.unpack_eq_iff.mp rfl⟩
    · exact (settings "SC" _).mpr ⟨[], by decide, Setting.unpack_eq_iff.mp rfl⟩
    · exact (settings "RD" _).mpr ⟨['t', '-', '7'], by decide, Setting.unpack_eq_iff.mp rfl⟩
    · exact order _ (by decide)

end Options

end SavedGames
