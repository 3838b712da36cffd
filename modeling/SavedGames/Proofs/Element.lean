import Mathlib
import SavedGames.Proofs.Snapshot.Reading

/-!
# Elements as flat lists

Entries of a tag and a value stand for the flat lists of even length in which every second number,
from the first one on, is the code of a tag. Each of these lists stands for one row of entries, and
any other list is refused for its odd length or for the first code that no tag has.
-/
namespace SavedGames

namespace Element

/-- The codes that saved games know. -/
def codes : List Int32 := [1, 2, 3, 4, 5, 6, 10, 11, 12, 13, 15, 23]

def IsCode (n : Int32) : Prop := n ∈ codes

theorem isCode_code (tag : Element) : IsCode tag.code := by
  cases tag with
  | resource r => cases r <;> simp [IsCode, codes, code, Resource.code]
  | _ => simp [IsCode, codes, code]

theorem isCode_iff {n : Int32} : IsCode n ↔ ∃ tag : Element, tag.code = n := by
  constructor
  · intro known
    simp only [IsCode, codes, List.mem_cons, List.not_mem_nil, or_false] at known
    rcases known with rfl | rfl | rfl | rfl | rfl | rfl | rfl | rfl | rfl | rfl | rfl | rfl
    all_goals exact ⟨_, ofCode?_eq_some.mp rfl⟩
  · rintro ⟨tag, rfl⟩
    exact isCode_code tag

theorem isCode_of_ofCode? {n : Int32} {tag : Element} (found : ofCode? n = some tag) : IsCode n :=
  isCode_iff.mpr ⟨tag, ofCode?_eq_some.mp found⟩

theorem ofCode?_eq_none {n : Int32} : ofCode? n = none ↔ ¬ IsCode n := by
  rw [Option.eq_none_iff_forall_ne_some, isCode_iff, not_exists]
  exact forall_congr' fun tag => not_congr ofCode?_eq_some

end Element

namespace Elements

variable {ns rest : List Int32} {es : Elements} {code value : Int32}

/-- Each number at an even place, where the codes stand, is the code of a tag. -/
def HasCodes (ns : List Int32) : Prop :=
  ∀ (i : Nat) (n : Int32), ns[2 * i]? = some n → Element.IsCode n

/-- The first of the numbers at even places that is the code of no tag. -/
def FirstUnknown (ns : List Int32) (n : Int32) : Prop :=
  ∃ i : Nat, ns[2 * i]? = some n ∧ ¬ Element.IsCode n ∧
    ∀ j < i, ∀ m : Int32, ns[2 * j]? = some m → Element.IsCode m

theorem hasCodes_cons :
    HasCodes (code :: value :: rest) ↔ Element.IsCode code ∧ HasCodes rest := by
  constructor
  · intro all
    exact ⟨all 0 code rfl, fun i n there => all (i + 1) n there⟩
  · rintro ⟨here, later⟩ i n there
    cases i with
    | zero => exact Option.some.inj there ▸ here
    | succ i => exact later i n there

theorem firstUnknown_cons {n : Int32} :
    FirstUnknown (code :: value :: rest) n ↔
      (code = n ∧ ¬ Element.IsCode code) ∨ (Element.IsCode code ∧ FirstUnknown rest n) := by
  constructor
  · rintro ⟨i, there, unknown, before⟩
    cases i with
    | zero =>
      obtain rfl : code = n := Option.some.inj there
      exact .inl ⟨rfl, unknown⟩
    | succ i =>
      refine .inr ⟨before 0 (Nat.succ_pos i) code rfl, i, there, unknown, fun j lt m found => ?_⟩
      exact before (j + 1) (Nat.succ_lt_succ lt) m found
  · rintro (⟨rfl, unknown⟩ | ⟨known, i, there, unknown, before⟩)
    · exact ⟨0, rfl, unknown, fun j lt => absurd lt (Nat.not_lt_zero j)⟩
    · refine ⟨i + 1, there, unknown, fun j lt m found => ?_⟩
      cases j with
      | zero => exact Option.some.inj found ▸ known
      | succ j => exact before j (Nat.lt_of_succ_lt_succ lt) m found

/-- Two numbers in front leave the parity of the length. -/
theorem even_cons : (code :: value :: rest).length % 2 = 0 ↔ rest.length % 2 = 0 := by
  rw [List.length_cons, List.length_cons]
  omega

theorem eq_nil_of_even (even : ns.length % 2 = 0)
    (short : ∀ code value rest, ns = code :: value :: rest → False) : ns = [] := by
  match ns with
  | [] => rfl
  | [_] => simp at even
  | code :: value :: rest => exact absurd rfl (short code value rest)

theorem hasCodes_of_pairs (even : ns.length % 2 = 0) :
    (∃ es, pairs ns = .ok es) ↔ HasCodes ns := by
  fun_induction pairs ns with
  | case1 code value rest tag found ih =>
    have known : Element.IsCode code := Element.isCode_of_ofCode? found
    rw [hasCodes_cons, ← ih (even_cons.mp even)]
    cases pairs rest <;> simp [Except.map, known]
  | case2 code value rest none =>
    have unknown : ¬ Element.IsCode code := Element.ofCode?_eq_none.mp none
    rw [hasCodes_cons]
    simp [unknown]
  | case3 ns short =>
    obtain rfl := eq_nil_of_even even short
    simp [HasCodes]

/-- By induction on the entries: what is read is written back as it was. -/
theorem flat_of_pairs (even : ns.length % 2 = 0) (h : pairs ns = .ok es) : es.flat = ns := by
  fun_induction pairs ns generalizing es with
  | case1 code value rest tag found ih =>
    cases read : pairs rest with
    | error fault => rw [read] at h; cases h
    | ok later =>
      rw [read] at h
      obtain rfl := Except.ok.inj h
      have tail : flat later = rest := ih (even_cons.mp even) read
      change tag.code :: value :: flat later = _
      rw [tail, Element.ofCode?_eq_some.mp found]
  | case2 code value rest none => cases h
  | case3 ns short =>
    obtain rfl := Except.ok.inj h
    exact (eq_nil_of_even even short).symm

theorem pairs_eq_error {fault : FlatFault} (even : ns.length % 2 = 0) :
    pairs ns = .error fault ↔ ∃ n, FirstUnknown ns n ∧ fault = .unknownTag n := by
  fun_induction pairs ns with
  | case1 code value rest tag found ih =>
    have known : Element.IsCode code := Element.isCode_of_ofCode? found
    have later (n : Int32) : FirstUnknown (code :: value :: rest) n ↔ FirstUnknown rest n := by
      simp [firstUnknown_cons, known]
    simp only [later, ← ih (even_cons.mp even)]
    cases pairs rest <;> simp [Except.map]
  | case2 code value rest none =>
    have unknown : ¬ Element.IsCode code := Element.ofCode?_eq_none.mp none
    have here (n : Int32) : FirstUnknown (code :: value :: rest) n ↔ code = n := by
      simp [firstUnknown_cons, unknown]
    simp only [here, exists_eq_left', Except.error.injEq]
    exact eq_comm
  | case3 ns short =>
    obtain rfl := eq_nil_of_even even short
    simp [FirstUnknown]

/-- The entries in the order in which they came are the elements. -/
theorem foldl_push (es : Elements) (pushed : List (Element × Int32)) :
    pushed.foldl (fun es e => push es e.1 e.2) es = es ++ pushed := by
  induction pushed generalizing es with
  | nil => exact (List.append_nil es).symm
  | cons e pushed ih => rw [List.foldl_cons, ih, push, List.append_assoc]; rfl

/-- What a flat list is refused for: first its length, and then the codes in their order. -/
def Refuses (ns : List Int32) : FlatFault → Prop
  | .oddLength length => ns.length % 2 = 1 ∧ length = ns.length
  | .unknownTag n => ns.length % 2 = 0 ∧ FirstUnknown ns n

theorem ofFlat_eq_error {fault : FlatFault} : ofFlat ns = .error fault ↔ Refuses ns fault := by
  unfold ofFlat
  split
  · rename_i even
    rw [pairs_eq_error even]
    cases fault <;> simp [Refuses, even]
  · rename_i odd
    have one : ns.length % 2 = 1 := Nat.mod_two_ne_zero.mp odd
    cases fault <;> simp [Refuses, one, eq_comm]

theorem ofFlat_eq_ok : ofFlat ns = .ok es ↔ es.flat = ns := by
  constructor
  · intro read
    unfold ofFlat at read
    split at read
    · rename_i even
      exact flat_of_pairs even read
    · cases read
  · rintro rfl
    exact ofFlat_flat es

theorem ofFlat_isOk_iff :
    (∃ es, ofFlat ns = .ok es) ↔ ns.length % 2 = 0 ∧ HasCodes ns := by
  unfold ofFlat
  split
  · rename_i even
    simp [hasCodes_of_pairs even, even]
  · rename_i odd
    simp [odd]

/-- Flat lists of even length with the codes of tags at the even places stand for elements, one for
one, and what is pushed stands in a flat list in the order in which it came. Every other list is
refused, and the fault names its odd length or else the first code that is not known. -/
theorem flat_corresponds (ns : List Int32) (pushed : List (Element × Int32)) :
    ((∃ es, ofFlat ns = .ok es) ↔ ns.length % 2 = 0 ∧ HasCodes ns) ∧
      (∀ es : Elements, ofFlat ns = .ok es ↔ es.flat = ns) ∧
      (pushed.foldl (fun es e => push es e.1 e.2) [] = pushed ∧
        ofFlat (flat pushed) = .ok pushed) ∧
      ∀ fault, ofFlat ns = .error fault ↔ Refuses ns fault := by
  refine ⟨ofFlat_isOk_iff, fun es => ofFlat_eq_ok, ⟨?_, ofFlat_flat pushed⟩, fun fault => ?_⟩
  · exact foldl_push [] pushed
  · exact ofFlat_eq_error

example : ofFlat [1, 2, 99, 0, 7, 0] = .error (.unknownTag 99) := rfl

end Elements
end SavedGames
