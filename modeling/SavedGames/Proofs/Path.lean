import Mathlib
import SavedGames.Files
import SavedGames.Proofs.Lists

/-!
# Texts as names of files

The bytes of a text have their slashes where the text has them. Thus a file of a directory has the
parts of the directory in its name, and one part more. A path with nothing above it has none but
idle parts.
-/
namespace SavedGames

namespace FileName

variable {c : Char} {b : UInt8}

/-- A byte of the code of seven bits comes from its own character only. -/
theorem mem_utf8EncodeChar_iff (low : b < 0x80) :
    b ∈ String.utf8EncodeChar c ↔ c.toNat = b.toNat := by
  rw [UInt8.lt_iff_toNat_lt] at low
  have small : b.toNat < 128 := low
  have bound : c.val.toNat < 0x110000 := by
    have := c.valid
    simp only [UInt32.isValidChar, Nat.isValidChar] at this
    omega
  unfold String.utf8EncodeChar Char.toNat
  dsimp only
  split_ifs <;>
    simp only [List.mem_cons, List.not_mem_nil, or_false, ← UInt8.toNat_inj, UInt8.toNat_ofNat'] <;>
    omega

theorem slash_mem_iff : slash ∈ String.utf8EncodeChar c ↔ c = '/' := by
  rw [mem_utf8EncodeChar_iff (by decide), ← Char.toNat_inj]
  rfl

/-- The parts of a name are the texts between the slashes. -/
theorem parts_ofText (text : String) : (ofText text).parts =
    (text.toList.splitOn '/').map fun cs => cs.flatMap String.utf8EncodeChar := by
  unfold parts ofText
  dsimp only
  induction text.toList with
  | nil => rfl
  | cons c cs ih =>
    rw [List.flatMap_cons, List.splitOn_cons_eq_if_modifyHead]
    split
    · next same =>
      obtain rfl : c = '/' := by simpa using same
      rw [List.map_cons, ← ih]
      exact List.splitOn_cons_eq_if_modifyHead ..
    · next other =>
      rw [splitOn_append (mt slash_mem_iff.mp (by simpa using other)), ih]
      cases cs.splitOn '/' <;> simp

theorem bytes_append (s t : String) :
    (ofText (s ++ t)).bytes = (ofText s).bytes ++ (ofText t).bytes := by
  simp [ofText]

theorem toByteArray_eq (text : String) : text.toByteArray = (ofText text).bytes.toByteArray := by
  conv_lhs => rw [← String.ofList_toList (s := text)]
  rfl

theorem ofText_injective : Function.Injective ofText := by
  intro s t same
  rw [← String.toByteArray_inj, toByteArray_eq, same, ← toByteArray_eq]

end FileName

namespace Path

variable {text : String}

theorem isIdle_ofList (cs : List Char) :
    isIdle (String.ofList cs) = true ↔ cs = [] ∨ cs = ['.'] := by
  have empty : String.ofList cs = "" ↔ cs = [] := by
    rw [← String.toList_inj, String.toList_ofList]
    rfl
  have dot : String.ofList cs = "." ↔ cs = ['.'] := by
    rw [← String.toList_inj, String.toList_ofList]
    rfl
  rw [isIdle, Bool.or_eq_true, beq_iff_eq, beq_iff_eq, empty, dot]

theorem toList_startOf (text : String) :
    (startOf text).toList ++ text.toList.drop (startOf text).length = text.toList := by
  unfold startOf
  split
  · next there =>
      rw [there]
      rfl
  · next there =>
      rw [there]
      rfl
  · next there =>
      rw [there]
      rfl
  · rfl

theorem startOf_cases (text : String) : startOf text = "" ∨ startOf text = "." ∨
    (startOf text = "/" ∧ ∃ rest, text.toList = '/' :: rest) := by
  unfold startOf
  split
  · next rest there => exact .inr (.inr ⟨rfl, rest, there⟩)
  · exact .inr (.inl rfl)
  · exact .inr (.inl rfl)
  · exact .inl rfl

/-- A path is what its text says. -/
theorem text_ofText (text : String) : (ofText text).text = text := by
  have names (names : List (List Char)) :
      (names.map String.ofList).map String.toList = names := by simp [Function.comp_def]
  unfold ofText Path.text
  rw [List.reverse_reverse, ← String.toList_inj, String.toList_append, String.toList_intercalate,
    names]
  conv_rhs => rw [← toList_startOf text]
  exact congrArg _ (List.intercalate_splitOn '/')

theorem ancestors_ofText (text : String) :
    (ofText text).ancestors = [] ∨ ∃ above, (ofText text).ancestors = ofText text :: above := by
  unfold ancestors
  rw [upwards]
  cases (ofText text).parent? with
  | none => exact .inl rfl
  | some above => exact .inr ⟨_, rfl⟩

/-- A path with nothing above it is the root or the place where it begins, in whatever way it is
written. -/
theorem idle_of_ancestors_eq_nil (h : (ofText text).ancestors = []) :
    ∀ part ∈ (FileName.ofText text).parts, FileName.isIdle part = true := by
  have up : (ofText text).parent? = none := by
    unfold ancestors at h
    rw [upwards] at h
    split at h
    · assumption
    · cases h
  obtain ⟨idle, start⟩ : (∀ name ∈ (ofText text).names, isIdle name = true) ∧
      startOf text ≠ "." := by
    unfold parent? at up
    split at up
    · next idle =>
      refine ⟨List.dropWhile_eq_nil_iff.mp idle, fun dot => ?_⟩
      simp [ofText, dot] at up
    · cases up
  have names : ∀ cs ∈ (text.toList.drop (startOf text).length).splitOn '/',
      cs = [] ∨ cs = ['.'] := by
    intro cs mem
    refine (isIdle_ofList cs).mp (idle _ ?_)
    exact List.mem_reverse.mpr (List.mem_map_of_mem mem)
  have whole : ∀ cs ∈ text.toList.splitOn '/', cs = [] ∨ cs = ['.'] := by
    rcases startOf_cases text with none | dot | ⟨root, rest, there⟩
    · rw [none] at names
      exact names
    · exact absurd dot start
    · rw [root, there] at names
      rw [there, List.splitOn_cons_eq_if_modifyHead, if_pos (by decide)]
      exact List.forall_mem_cons.mpr ⟨.inl rfl, names⟩
  rw [FileName.parts_ofText, List.forall_mem_map]
  intro cs mem
  rcases whole cs mem with rfl | rfl <;> rfl

/-- The path of a file begins with its directory. -/
theorem exists_join (directory file : String) :
    ∃ rest, join directory file = directory ++ rest := by
  unfold join
  split
  · next none =>
    have empty : directory = "" := by
      rw [← String.toList_inj]
      exact List.getLast?_eq_none_iff.mp none
    exact ⟨file, by rw [empty, String.empty_append]⟩
  · exact ⟨file, rfl⟩
  · exact ⟨"/" ++ file, String.append_assoc ..⟩

end Path
namespace FileName

variable {directory file : String}

/-- The parts of a directory in the names of its files. -/
def folder (directory : String) : List (List UInt8) :=
  (ofText (Path.join directory "")).parts.dropLast

/-- A file has the parts of its directory in its name. A slash or nothing at the end of the name of
a directory is an idle part of it. -/
theorem exists_parts_join (directory : String) : ∃ above idle : List (List UInt8),
    (ofText directory).parts = above ++ idle ∧ (∀ part ∈ idle, isIdle part = true) ∧
      ∀ file : String, '/' ∉ file.toList →
        (ofText (Path.join directory file)).parts = above ++ [(ofText file).bytes] := by
  have single {file : String} (plain : '/' ∉ file.toList) :
      file.toList.splitOn '/' = [file.toList] := List.splitOn_eq_singleton plain
  simp only [parts_ofText]
  unfold Path.join
  split
  · next none =>
    rw [List.getLast?_eq_none_iff.mp none]
    refine ⟨[], [[]], rfl, by simp [isIdle], fun file plain => ?_⟩
    rw [single plain]
    rfl
  · next last =>
    obtain ⟨front, split⟩ := List.getLast?_eq_some_iff.mp last
    refine ⟨(front.splitOn '/').map fun cs => cs.flatMap String.utf8EncodeChar, [[]], ?_,
      by simp [isIdle], fun file plain => ?_⟩
    · rw [split, List.splitOn_append_cons_self, List.map_append]
      rfl
    · rw [String.toList_append, split, List.append_assoc, List.singleton_append,
        List.splitOn_append_cons_self, single plain, List.map_append]
      rfl
  · have slash : "/".toList = ['/'] := rfl
    refine ⟨_, [], (List.append_nil _).symm, by simp, fun file plain => ?_⟩
    rw [String.toList_append, String.toList_append, List.append_assoc, slash,
      List.singleton_append, List.splitOn_append_cons_self, single plain, List.map_append]
    rfl

theorem parts_join (plain : '/' ∉ file.toList) :
    (ofText (Path.join directory file)).parts = folder directory ++ [(ofText file).bytes] := by
  obtain ⟨above, idle, -, -, parts⟩ := exists_parts_join directory
  rw [folder, parts file plain, parts "" (by simp), List.dropLast_concat]

theorem parts_directory (directory : String) : ∃ idle : List (List UInt8),
    (ofText directory).parts = folder directory ++ idle ∧ ∀ part ∈ idle, isIdle part = true := by
  obtain ⟨above, idle, whole, idles, parts⟩ := exists_parts_join directory
  refine ⟨idle, ?_, idles⟩
  rw [folder, parts "" (by simp), List.dropLast_concat, whole]

theorem slash_notMem_bytes (plain : '/' ∉ file.toList) : slash ∉ (ofText file).bytes := by
  rw [ofText, List.mem_flatMap]
  rintro ⟨c, mem, there⟩
  exact plain (slash_mem_iff.mp there ▸ mem)

/-- A file is looked for where its directory is. -/
theorem isAbsolute_join (plain : '/' ∉ file.toList) :
    (ofText (Path.join directory file)).isAbsolute = (ofText directory).isAbsolute := by
  rcases eq_or_ne directory "" with rfl | nonempty
  · have relative : (ofText file).isAbsolute = false := by
      rw [isAbsolute, beq_eq_false_iff_ne]
      exact fun first => slash_notMem_bytes plain (List.mem_of_mem_head? first)
    exact relative
  · obtain ⟨rest, joined⟩ := Path.exists_join directory file
    have bytes : (ofText directory).bytes ≠ [] :=
      fun empty => nonempty (ofText_injective (congrArg FileName.mk empty))
    rw [isAbsolute, isAbsolute, joined, bytes_append, List.head?_append_of_ne_nil _ bytes]

end FileName
end SavedGames
