import Mathlib
import SavedGames.Json.Document

/-!
# The grammar of JSON texts

`Spells node cs` says that `cs` is a way to write the tree `node`: numbers with or without a
fraction and an exponent, texts with any escapes, blanks between all parts. The scanner reads every
such text as its tree and leaves exactly what follows it.
-/
namespace SavedGames.Json.Document

def AllBlank (cs : List Char) : Prop := ∀ c ∈ cs, isBlank c = true

theorem allBlank_nil : AllBlank [] := by simp [AllBlank]

theorem skipBlanks_append {ws cs : List Char} (h : AllBlank ws) :
    skipBlanks (ws ++ cs) = skipBlanks cs := List.dropWhile_append_of_pos h

theorem skipBlanks_cons {c : Char} {cs : List Char} (h : isBlank c = false) :
    skipBlanks (c :: cs) = c :: cs := List.dropWhile_cons_of_neg (by simp [h])

/-- What follows a number cannot be taken for a part of it. -/
def EndsNumber (rest : List Char) : Prop :=
  ∀ c ∈ rest.head?, c.isDigit = false ∧ c ≠ '.' ∧ c ≠ 'e' ∧ c ≠ 'E'

theorem endsNumber_nil : EndsNumber [] := by simp [EndsNumber]

theorem endsNumber_of_blank {c : Char} {rest : List Char} (h : isBlank c = true) :
    EndsNumber (c :: rest) := by
  intro d hd
  obtain rfl : c = d := by simpa using hd
  simp only [isBlank, Bool.or_eq_true, beq_iff_eq] at h
  rcases h with ((rfl | rfl) | rfl) | rfl <;> decide

theorem endsNumber_append {ws rest : List Char} (hw : AllBlank ws) (hr : EndsNumber rest) :
    EndsNumber (ws ++ rest) := by
  cases ws with
  | nil => exact hr
  | cons c ws => exact endsNumber_of_blank (hw c (by simp))

section Numbers

/-- At least one digit and nothing else. -/
def AllDigits (cs : List Char) : Prop := cs ≠ [] ∧ ∀ c ∈ cs, c.isDigit = true

inductive SpellsFraction : List Char → List Char → Prop
  | absent : SpellsFraction [] []
  | present {ds : List Char} (digits : AllDigits ds) : SpellsFraction ds ('.' :: ds)

inductive SpellsExponent : Option (Bool × List Char) → List Char → Prop
  | absent : SpellsExponent none []
  | bare {mark : Char} {ds : List Char} (letter : mark = 'e' ∨ mark = 'E')
      (digits : AllDigits ds) : SpellsExponent (some (false, ds)) (mark :: ds)
  | plus {mark : Char} {ds : List Char} (letter : mark = 'e' ∨ mark = 'E')
      (digits : AllDigits ds) : SpellsExponent (some (false, ds)) (mark :: '+' :: ds)
  | minus {mark : Char} {ds : List Char} (letter : mark = 'e' ∨ mark = 'E')
      (digits : AllDigits ds) : SpellsExponent (some (true, ds)) (mark :: '-' :: ds)

/-- A whole part without needless zeros in front, then perhaps a fraction and an exponent. -/
inductive SpellsNumeral (n : Numeral) : List Char → Prop
  | mk {fraction exponent : List Char} (whole : AllDigits n.whole)
      (short : 1 < n.whole.length → n.whole.head? ≠ some '0')
      (hf : SpellsFraction n.fraction fraction) (he : SpellsExponent n.exponent exponent) :
      SpellsNumeral n
        ((if n.negative then ['-'] else []) ++ (n.whole ++ (fraction ++ exponent)))

theorem digits?_append {ds rest : List Char} (hd : AllDigits ds)
    (hr : ∀ c ∈ rest.head?, c.isDigit = false) : digits? (ds ++ rest) = some (ds, rest) := by
  have taken : (ds ++ rest).takeWhile Char.isDigit = ds := by
    rw [List.takeWhile_append_of_pos hd.2]
    cases rest with
    | nil => simp
    | cons c rest => simp [hr c (by simp)]
  have left : (ds ++ rest).dropWhile Char.isDigit = rest := by
    rw [List.dropWhile_append_of_pos hd.2]
    cases rest with
    | nil => rfl
    | cons c rest => simp [hr c (by simp)]
  simp [digits?, taken, left, hd.1]

theorem AllDigits.head {ds : List Char} (h : AllDigits ds) :
    ∃ c cs, ds = c :: cs ∧ c.isDigit = true := by
  obtain ⟨c, cs, rfl⟩ := List.exists_cons_of_ne_nil h.1
  exact ⟨c, cs, rfl, h.2 c (by simp)⟩

theorem exponent?_spells {e : Option (Bool × List Char)} {cs rest : List Char}
    (h : SpellsExponent e cs) (hr : EndsNumber rest) :
    exponent? (cs ++ rest) = some (e, rest) := by
  have stop : ∀ c ∈ rest.head?, c.isDigit = false := fun c hc => (hr c hc).1
  cases h with
  | absent =>
    rw [List.nil_append]
    unfold exponent?
    split
    · exact absurd rfl (hr 'e' rfl).2.2.1
    · exact absurd rfl (hr 'E' rfl).2.2.2
    · rfl
  | @bare mark ds letter digits =>
    have read : exponentDigits? (ds ++ rest) = some ((false, ds), rest) := by
      obtain ⟨c, cs, rfl, hc⟩ := digits.head
      have scanned := digits?_append digits stop
      unfold exponentDigits?
      split
      · simp_all
      · simp_all
      · rw [scanned]
        rfl
    rcases letter with rfl | rfl <;> simp [exponent?, read]
  | plus letter digits =>
    rcases letter with rfl | rfl <;>
      simp [exponent?, exponentDigits?, digits?_append digits stop]
  | minus letter digits =>
    rcases letter with rfl | rfl <;>
      simp [exponent?, exponentDigits?, digits?_append digits stop]

/-- An exponent does not go on with a digit or a point. -/
theorem SpellsExponent.head {e : Option (Bool × List Char)} {cs rest : List Char}
    (h : SpellsExponent e cs) (hr : EndsNumber rest) :
    ∀ c ∈ (cs ++ rest).head?, c.isDigit = false ∧ c ≠ '.' := by
  cases h with
  | absent => exact fun c hc => ⟨(hr c hc).1, (hr c hc).2.1⟩
  | bare letter _ => rcases letter with rfl | rfl <;> simp
  | plus letter _ => rcases letter with rfl | rfl <;> simp
  | minus letter _ => rcases letter with rfl | rfl <;> simp

theorem fraction?_spells {f cs rest : List Char} (h : SpellsFraction f cs)
    (hr : ∀ c ∈ rest.head?, c.isDigit = false ∧ c ≠ '.') :
    fraction? (cs ++ rest) = some (f, rest) := by
  cases h with
  | absent =>
    rw [List.nil_append]
    unfold fraction?
    split
    · exact absurd rfl (hr '.' rfl).2
    · rfl
  | present digits => exact digits?_append digits fun c hc => (hr c hc).1

theorem SpellsFraction.head {f cs rest : List Char} (h : SpellsFraction f cs)
    (hr : ∀ c ∈ rest.head?, c.isDigit = false) :
    ∀ c ∈ (cs ++ rest).head?, c.isDigit = false := by
  cases h with
  | absent => exact hr
  | present _ => simp

theorem numeral?_spells {n : Numeral} {cs rest : List Char} (h : SpellsNumeral n cs)
    (hr : EndsNumber rest) : numeral? (cs ++ rest) = some (n, rest) := by
  obtain ⟨negative, whole, fraction, exponent⟩ := n
  cases h with
  | @mk f e hw short hf he =>
    have afterFraction := he.head hr
    have afterWhole : ∀ c ∈ (f ++ (e ++ rest)).head?, c.isDigit = false :=
      hf.head fun c hc => (afterFraction c hc).1
    have wholeRead : whole? (whole ++ (f ++ (e ++ rest))) = some (whole, f ++ (e ++ rest)) := by
      simp only [whole?, digits?_append hw afterWhole, Option.bind_some]
      exact if_neg fun bad => short bad.1 bad.2
    have fractionRead := fraction?_spells hf afterFraction
    have exponentRead := exponent?_spells he hr
    cases negative with
    | true => simp [numeral?, wholeRead, fractionRead, exponentRead]
    | false =>
      obtain ⟨c, cs, rfl, hc⟩ := hw.head
      have unsigned : c ≠ '-' := by rintro rfl; exact absurd hc (by decide)
      simp only [List.cons_append] at wholeRead
      simp [numeral?, unsigned, wholeRead, fractionRead, exponentRead]

/-- A number begins with a digit or a minus sign. -/
theorem SpellsNumeral.head {n : Numeral} {cs : List Char} (h : SpellsNumeral n cs) :
    ∃ c tail, cs = c :: tail ∧ (c = '-' ∨ c.isDigit = true) := by
  cases h with
  | @mk f e hw _ _ _ =>
    obtain ⟨c, tail, eq, hc⟩ := hw.head
    cases n.negative with
    | true => exact ⟨'-', _, rfl, .inl rfl⟩
    | false => exact ⟨c, tail ++ (f ++ e), by simp [eq], .inr hc⟩

end Numbers

section Texts

/-- A character that stands for itself, a short escape, or a code unit in hexadecimal digits. -/
inductive SpellsUnit : TextUnit → List Char → Prop
  | plain {c : Char} (printed : 0x20 ≤ c.toNat) (quote : c ≠ '"') (slash : c ≠ '\\') :
      SpellsUnit (.char c) [c]
  | short {e c : Char} (known : shortEscape? e = some c) : SpellsUnit (.char c) ['\\', e]
  | code {a b c d : Char} {n : Nat} (digits : codeUnit? a b c d = some n) :
      SpellsUnit (.code n) ['\\', 'u', a, b, c, d]

inductive SpellsUnits : List TextUnit → List Char → Prop
  | nil : SpellsUnits [] []
  | cons {u : TextUnit} {us : List TextUnit} {cs ds : List Char} (head : SpellsUnit u cs)
      (tail : SpellsUnits us ds) : SpellsUnits (u :: us) (cs ++ ds)

theorem textUnits?_unit {u : TextUnit} {cs more : List Char} (h : SpellsUnit u cs) :
    textUnits? (cs ++ more) = (textUnits? more).map fun r => (u :: r.1, r.2) := by
  cases h with
  | plain printed quote slash =>
    simp [textUnits?, slash, Nat.not_lt.mpr printed]
  | @short e c known =>
    have escape : e ≠ 'u' := by rintro rfl; simp [shortEscape?] at known
    simp [textUnits?, escape, known, Option.map_eq_bind]
  | code digits =>
    simp [textUnits?, digits, Option.map_eq_bind]

theorem textUnits?_spells {us : List TextUnit} {cs rest : List Char} (h : SpellsUnits us cs) :
    textUnits? (cs ++ '"' :: rest) = some (us, rest) := by
  induction h with
  | nil => simp [textUnits?]
  | cons head _ ih => rw [List.append_assoc, textUnits?_unit head, ih, Option.map_some]

end Texts

section Trees

mutual

/-- A way to write a tree, with no blanks around it. -/
inductive Spells : Node → List Char → Prop
  | null : Spells .null ('n' :: "ull".toList)
  | true : Spells (.bool Bool.true) ('t' :: "rue".toList)
  | false : Spells (.bool Bool.false) ('f' :: "alse".toList)
  | num {n : Numeral} {cs : List Char} (h : SpellsNumeral n cs) : Spells (.num n) cs
  | str {us : List TextUnit} {cs : List Char} (h : SpellsUnits us cs) :
      Spells (.str (text? us)) ('"' :: (cs ++ ['"']))
  | emptyArr {ws : List Char} (hw : AllBlank ws) : Spells (.arr [] Bool.true) ('[' :: (ws ++ [']']))
  | arr {items : List Node} {ws cs : List Char} (hw : AllBlank ws) (h : SpellsItems items cs) :
      Spells (.arr items Bool.true) ('[' :: (ws ++ (cs ++ [']'])))
  | emptyObj {ws : List Char} (hw : AllBlank ws) :
      Spells (.obj [] Bool.true) ('\x7b' :: (ws ++ ['\x7d']))
  | obj {members : List (Option String × Node)} {ws cs : List Char} (hw : AllBlank ws)
      (h : SpellsMembers members cs) :
      Spells (.obj members Bool.true) ('\x7b' :: (ws ++ (cs ++ ['\x7d'])))

/-- Items with commas between them, and blanks behind each of them and behind each comma. -/
inductive SpellsItems : List Node → List Char → Prop
  | last {item : Node} {cs after : List Char} (h : Spells item cs) (ha : AllBlank after) :
      SpellsItems [item] (cs ++ after)
  | more {item : Node} {items : List Node} {cs after before ds : List Char}
      (h : Spells item cs) (ha : AllBlank after) (hb : AllBlank before)
      (hs : SpellsItems items ds) :
      SpellsItems (item :: items) (cs ++ (after ++ ',' :: (before ++ ds)))

/-- Members likewise, each with its key in quotes and blanks around the colon. -/
inductive SpellsMembers : List (Option String × Node) → List Char → Prop
  | last {us : List TextUnit} {value : Node} {key left right cs after : List Char}
      (hk : SpellsUnits us key) (hl : AllBlank left) (hr : AllBlank right) (h : Spells value cs)
      (ha : AllBlank after) :
      SpellsMembers [(text? us, value)]
        ('"' :: (key ++ '"' :: (left ++ ':' :: (right ++ (cs ++ after)))))
  | more {us : List TextUnit} {value : Node} {members : List (Option String × Node)}
      {key left right cs after before ds : List Char}
      (hk : SpellsUnits us key) (hl : AllBlank left) (hr : AllBlank right) (h : Spells value cs)
      (ha : AllBlank after) (hb : AllBlank before) (hs : SpellsMembers members ds) :
      SpellsMembers ((text? us, value) :: members)
        ('"' :: (key ++ '"' :: (left ++ ':' :: (right ++ (cs ++ (after ++ ',' ::
          (before ++ ds)))))))

end

theorem Spells.head {node : Node} {cs : List Char} (h : Spells node cs) :
    ∃ c tail, cs = c :: tail ∧ isBlank c = Bool.false ∧ c ≠ ']' ∧ c ≠ '\x7d' := by
  cases h with
  | num h =>
    obtain ⟨c, tail, rfl, hc⟩ := h.head
    refine ⟨c, tail, rfl, ?_⟩
    rcases hc with rfl | hc
    · decide
    · refine ⟨?_, ?_, ?_⟩
      · by_contra blank
        have ends : EndsNumber [c] := endsNumber_of_blank (Bool.eq_true_of_not_eq_false blank)
        exact absurd hc (Bool.eq_false_iff.mp (ends c rfl).1)
      · rintro rfl; exact absurd hc (by decide)
      · rintro rfl; exact absurd hc (by decide)
  | _ => exact ⟨_, _, rfl, by decide, by decide, by decide⟩

theorem scanValue_append {ws cs : List Char} (fuel : Nat) (hw : AllBlank ws) :
    scanValue fuel (ws ++ cs) = scanValue fuel cs := by
  cases fuel with
  | zero => rw [scanValue, scanValue]
  | succ fuel => simp only [scanValue, skipBlanks_append hw]

theorem scanValue_number {fuel : Nat} {n : Numeral} {cs rest : List Char}
    (h : SpellsNumeral n cs) (hr : EndsNumber rest) :
    scanValue (fuel + 1) (cs ++ rest) = (.num n, some rest) := by
  have scanned : scanNumber (cs ++ rest) = (.num n, some rest) := by
    simp only [scanNumber, numeral?_spells h hr]
  obtain ⟨c, tail, rfl, hc⟩ := h.head
  obtain ⟨_, _, eq, blank, -⟩ := (Spells.num h).head
  obtain ⟨rfl, rfl⟩ := List.cons.inj eq
  rw [List.cons_append] at scanned
  rw [scanValue, List.cons_append, skipBlanks_cons blank]
  split
  all_goals
    try
      rename_i first
      obtain ⟨rfl, rfl⟩ := List.cons.inj first
      exact absurd hc (by decide)
  exact scanned

theorem SpellsItems.head {items : List Node} {cs : List Char} (h : SpellsItems items cs) :
    ∃ c tail, cs = c :: tail ∧ isBlank c = Bool.false ∧ c ≠ ']' := by
  cases h with
  | last h _ =>
    obtain ⟨c, tail, rfl, blank, other, -⟩ := h.head
    exact ⟨c, _, List.cons_append, blank, other⟩
  | more h _ _ _ =>
    obtain ⟨c, tail, rfl, blank, other, -⟩ := h.head
    exact ⟨c, _, List.cons_append, blank, other⟩

theorem scanLiteral_append (word : String) {node : Node} {rest : List Char} :
    scanLiteral word node (word.toList ++ rest) = (node, some rest) := by
  have whole : word.toList.isPrefixOf (word.toList ++ rest) = Bool.true :=
    List.isPrefixOf_iff_prefix.mpr (List.prefix_append _ _)
  have left : (word.toList ++ rest).drop word.length = rest := by
    rw [← String.length_toList, List.drop_left]
  rw [scanLiteral, if_pos whole, left]

/-- An opened list that is not closed at once has items. -/
theorem scanValue_items {fuel : Nat} {items : List Node} {ws cs rest : List Char}
    (hw : AllBlank ws) (h : SpellsItems items cs)
    (scanned : scanItems fuel (cs ++ ']' :: rest) = (items, Bool.true, some rest)) :
    scanValue (fuel + 1) ('[' :: (ws ++ (cs ++ [']'])) ++ rest) =
      (.arr items Bool.true, some rest) := by
  obtain ⟨c, tail, rfl, blank, other⟩ := h.head
  have inside : skipBlanks (ws ++ (c :: tail ++ [']']) ++ rest) = c :: (tail ++ ']' :: rest) := by
    rw [List.append_assoc, skipBlanks_append hw]
    simpa using skipBlanks_cons blank
  rw [List.cons_append, scanValue, skipBlanks_cons (by decide)]
  simp only [inside]
  split
  · rename_i eq
    exact absurd (List.cons.inj eq).1 other
  · rw [List.cons_append] at scanned
    rw [scanned]

/-- An opened object that is not closed at once has members. -/
theorem scanValue_members {fuel : Nat} {members : List (Option String × Node)}
    {ws cs rest : List Char} (hw : AllBlank ws) (h : SpellsMembers members cs)
    (scanned : scanMembers fuel (cs ++ '\x7d' :: rest) = (members, Bool.true, some rest)) :
    scanValue (fuel + 1) ('\x7b' :: (ws ++ (cs ++ ['\x7d'])) ++ rest) =
      (.obj members Bool.true, some rest) := by
  have inside : skipBlanks (ws ++ (cs ++ ['\x7d']) ++ rest) = cs ++ '\x7d' :: rest := by
    rw [List.append_assoc, skipBlanks_append hw, List.append_assoc]
    cases h <;> exact skipBlanks_cons (by decide)
  rw [List.cons_append, scanValue, skipBlanks_cons (by decide)]
  simp only [inside]
  split
  · rename_i eq
    cases h <;> exact absurd (List.cons.inj eq).1 (by decide)
  · rw [scanned]

-- The three laws are one induction on the derivations. A list or an object spends a step on itself
-- and each of its parts another, and every part has a character of its own.
mutual

/-- Twice as much fuel as the value has characters suffices. -/
theorem scanValue_spells {node : Node} {ws cs : List Char} (h : Spells node cs)
    (hw : AllBlank ws) (fuel : Nat) (rest : List Char) (hr : EndsNumber rest)
    (hf : 2 * cs.length ≤ fuel) :
    scanValue fuel (ws ++ (cs ++ rest)) = (node, some rest) := by
  rw [scanValue_append fuel hw]
  cases fuel with
  | zero =>
    obtain ⟨c, tail, rfl, -⟩ := h.head
    simp at hf
  | succ fuel =>
    cases h with
    | null =>
      rw [List.cons_append, scanValue, skipBlanks_cons (by decide)]
      exact scanLiteral_append "ull"
    | true =>
      rw [List.cons_append, scanValue, skipBlanks_cons (by decide)]
      exact scanLiteral_append "rue"
    | false =>
      rw [List.cons_append, scanValue, skipBlanks_cons (by decide)]
      exact scanLiteral_append "alse"
    | num h => exact scanValue_number h hr
    | str h =>
      rw [List.cons_append, scanValue, skipBlanks_cons (by decide)]
      simp only [scanText, List.append_assoc, List.singleton_append, textUnits?_spells h]
    | emptyArr h =>
      rw [List.cons_append, scanValue, skipBlanks_cons (by decide)]
      simp only [List.append_assoc, skipBlanks_append h, List.singleton_append,
        skipBlanks_cons (show isBlank ']' = Bool.false by decide)]
    | arr hws h =>
      refine scanValue_items hws h ?_
      simp only [List.length_cons, List.length_append] at hf
      exact scanItems_spells h allBlank_nil _ _ (by omega)
    | emptyObj h =>
      rw [List.cons_append, scanValue, skipBlanks_cons (by decide)]
      simp only [List.append_assoc, skipBlanks_append h, List.singleton_append,
        skipBlanks_cons (show isBlank '\x7d' = Bool.false by decide)]
    | obj hws h =>
      refine scanValue_members hws h ?_
      simp only [List.length_cons, List.length_append] at hf
      exact scanMembers_spells h allBlank_nil _ _ (by omega)

theorem scanItems_spells {items : List Node} {ws cs : List Char} (h : SpellsItems items cs)
    (hw : AllBlank ws) (fuel : Nat) (rest : List Char) (hf : 2 * cs.length + 1 ≤ fuel) :
    scanItems fuel (ws ++ (cs ++ ']' :: rest)) = (items, Bool.true, some rest) := by
  cases fuel with
  | zero => simp at hf
  | succ fuel =>
    cases h with
    | @last item cs after h ha =>
      have scanned := scanValue_spells h hw fuel (after ++ ']' :: rest)
        (endsNumber_append ha (by simp [EndsNumber])) (by simp at hf; omega)
      simp only [scanItems, List.append_assoc, scanned, skipBlanks_append ha,
        skipBlanks_cons (show isBlank ']' = Bool.false by decide)]
    | @more item items cs after before ds h ha hb hs =>
      have scanned := scanValue_spells h hw fuel
        (after ++ ',' :: (before ++ (ds ++ ']' :: rest)))
        (endsNumber_append ha (by simp [EndsNumber])) (by simp at hf; omega)
      have others := scanItems_spells hs hb fuel rest (by simp at hf; omega)
      simp only [scanItems, List.append_assoc, List.cons_append, scanned, skipBlanks_append ha,
        skipBlanks_cons (show isBlank ',' = Bool.false by decide), others]

theorem scanMembers_spells {members : List (Option String × Node)} {ws cs : List Char}
    (h : SpellsMembers members cs) (hw : AllBlank ws) (fuel : Nat) (rest : List Char)
    (hf : 2 * cs.length + 1 ≤ fuel) :
    scanMembers fuel (ws ++ (cs ++ '\x7d' :: rest)) = (members, Bool.true, some rest) := by
  cases fuel with
  | zero => simp at hf
  | succ fuel =>
    rw [scanMembers, skipBlanks_append hw]
    cases h with
    | @last us value key left right cs after hk hl hr h ha =>
      have scanned := scanValue_spells h hr fuel (after ++ '\x7d' :: rest)
        (endsNumber_append ha (by simp [EndsNumber])) (by simp at hf; omega)
      simp only [List.append_assoc, List.cons_append,
        skipBlanks_cons (show isBlank '"' = Bool.false by decide), textUnits?_spells hk,
        skipBlanks_append hl, skipBlanks_cons (show isBlank ':' = Bool.false by decide), scanned,
        skipBlanks_append ha, skipBlanks_cons (show isBlank '\x7d' = Bool.false by decide)]
    | @more us value members key left right cs after before ds hk hl hr h ha hb hs =>
      have scanned := scanValue_spells h hr fuel
        (after ++ ',' :: (before ++ (ds ++ '\x7d' :: rest)))
        (endsNumber_append ha (by simp [EndsNumber])) (by simp at hf; omega)
      have others := scanMembers_spells hs hb fuel rest (by simp at hf; omega)
      simp only [List.append_assoc, List.cons_append,
        skipBlanks_cons (show isBlank '"' = Bool.false by decide), textUnits?_spells hk,
        skipBlanks_append hl, skipBlanks_cons (show isBlank ':' = Bool.false by decide), scanned,
        skipBlanks_append ha, skipBlanks_cons (show isBlank ',' = Bool.false by decide), others]

end

/-- A text that spells a tree, with blanks around it, is read as that tree to its end. -/
theorem ofChars_spells {node : Node} {before cs after : List Char} (h : Spells node cs)
    (hb : AllBlank before) (ha : AllBlank after) :
    ofChars (before ++ (cs ++ after)) = ⟨node, Bool.true⟩ := by
  have ends : EndsNumber after := by
    simpa using endsNumber_append ha endsNumber_nil
  have scanned := scanValue_spells h hb (2 * (before ++ (cs ++ after)).length + 2) after ends
    (by simp; omega)
  have finished : skipBlanks (after ++ []) = [] := skipBlanks_append ha
  rw [List.append_nil] at finished
  simp only [ofChars, scanned, finished, List.isEmpty_nil]

mutual

theorem isSound_of_spells {node : Node} {cs : List Char} (h : Spells node cs) :
    node.isSound = Bool.true := by
  cases h with
  | null | true | false | num | str | emptyArr | emptyObj => rfl
  | arr _ items => rw [Node.isSound, areSound_of_spells items, Bool.and_true]
  | obj _ members => rw [Node.isSound, membersSound_of_spells members, Bool.and_true]

theorem areSound_of_spells {items : List Node} {cs : List Char} (h : SpellsItems items cs) :
    Node.areSound items = Bool.true := by
  cases h with
  | last item => rw [Node.areSound, isSound_of_spells item, Node.areSound, Bool.and_true]
  | more item _ _ items =>
    rw [Node.areSound, isSound_of_spells item, areSound_of_spells items, Bool.and_true]

theorem membersSound_of_spells {members : List (Option String × Node)} {cs : List Char}
    (h : SpellsMembers members cs) : Node.membersSound members = Bool.true := by
  cases h with
  | last _ _ _ value => rw [Node.membersSound, isSound_of_spells value, Node.membersSound,
      Bool.and_true]
  | more _ _ _ value _ _ members =>
    rw [Node.membersSound, isSound_of_spells value, membersSound_of_spells members, Bool.and_true]

end

/-- The text is a way to write the tree, with blanks around it. -/
def Writes (text : String) (node : Node) : Prop :=
  ∃ before cs after, text.toList = before ++ (cs ++ after) ∧ AllBlank before ∧ AllBlank after ∧
    Spells node cs

theorem Writes.ofText_eq {text : String} {node : Node} (h : Writes text node) :
    ofText text = ⟨node, Bool.true⟩ := by
  obtain ⟨before, cs, after, split, hb, ha, spelled⟩ := h
  rw [ofText, split, ofChars_spells spelled hb ha]

theorem Writes.isSound {text : String} {node : Node} (h : Writes text node) :
    node.isSound = Bool.true := by
  obtain ⟨_, _, _, -, -, -, spelled⟩ := h
  exact isSound_of_spells spelled

end Trees

end SavedGames.Json.Document
