import Mathlib
import SavedGames.Proofs.Disk
import SavedGames.Proofs.Path

/-!
# Files of saved games

The name of a game becomes one part of a path, whatever is in it. To make a directory keeps
everything on the disk, and after it has succeeded once it changes nothing.
-/
namespace SavedGames

namespace Snapshot

variable {c : Char}

/-- A letter or a digit of the seven-bit code, a hyphen or an underscore. -/
def IsPlain (c : Char) : Prop :=
  ('A' ≤ c ∧ c ≤ 'Z') ∨ ('a' ≤ c ∧ c ≤ 'z') ∨ ('0' ≤ c ∧ c ≤ '9') ∨ c = '-' ∨ c = '_'

/-- The file has a plain character for each one of the name, which is the same if that is plain. -/
def IsFileNameOf (name file : String) : Prop :=
  ∃ stem : List Char, file = String.ofList stem ++ ".game.json" ∧ (∀ c ∈ stem, IsPlain c) ∧
    List.Forall₂ (fun c kept => IsPlain c ∧ kept = c ∨ ¬ IsPlain c ∧ kept = '_') name.toList stem

theorem isFileNameChar_iff : isFileNameChar c = true ↔ IsPlain c := by
  simp only [isFileNameChar, IsPlain, Char.isAlphanum, Char.isAlpha, Char.isUpper, Char.isLower,
    Char.isDigit, Bool.or_eq_true, Bool.and_eq_true, decide_eq_true_eq, beq_iff_eq, Char.le_def,
    ge_iff_le, or_assoc]

theorem isFileNameOf_fileName (name : String) : IsFileNameOf name (fileName name) := by
  refine ⟨name.toList.map fun c => if isFileNameChar c then c else '_', rfl, ?_, ?_⟩
  · rw [List.forall_mem_map]
    intro c _
    split
    · next plain => exact isFileNameChar_iff.mp plain
    · exact isFileNameChar_iff.mp rfl
  · rw [List.forall₂_map_right_iff, List.forall₂_same]
    intro c _
    split
    · next plain => exact .inl ⟨isFileNameChar_iff.mp plain, rfl⟩
    · next other => exact .inr ⟨mt isFileNameChar_iff.mpr other, rfl⟩

theorem IsPlain.ne_slash (plain : IsPlain c) : c ≠ '/' := by
  rintro rfl
  exact absurd (isFileNameChar_iff.mpr plain) (by decide)

theorem slash_notMem_fileName (name : String) : '/' ∉ (fileName name).toList := by
  obtain ⟨stem, file, plain, -⟩ := isFileNameOf_fileName name
  rw [file, String.toList_append, String.toList_ofList, List.mem_append, not_or]
  exact ⟨fun mem => (plain _ mem).ne_slash rfl, by decide⟩

/-- The path of a game's file in a directory. -/
def filePath (directory name : String) : String := Path.join directory (fileName name)

/-- The bytes under which the file of a game stands in its directory. -/
def filePart (name : String) : List UInt8 := (FileName.ofText (fileName name)).bytes

theorem filePart_inj {name other : String} :
    filePart name = filePart other ↔ fileName name = fileName other := by
  refine ⟨fun same => FileName.ofText_injective ?_, fun same => by rw [filePart, same, filePart]⟩
  exact congrArg FileName.mk same

/-- The name of a file is neither idle nor does it lead up. -/
theorem step_filePart (d : Disk) (n : Nat) (name : String) :
    d.step n (filePart name) =
      if Disk.maxPartLength < (filePart name).length then .error .nameTooLong
      else .ok (.part n (filePart name)) := by
  have long : 2 < (filePart name).length := by
    have ending : (FileName.ofText fileExtension).bytes.length = 10 := by decide +kernel
    rw [filePart, fileName, FileName.bytes_append, List.length_append, ending]
    omega
  generalize filePart name = part at long
  have ne (short : List UInt8) (few : short.length ≤ 2) : part ≠ short := by
    rintro rfl
    exact Nat.not_le_of_lt long few
  have idle : FileName.isIdle part = false := by
    rw [FileName.isIdle, Bool.or_eq_false_iff, beq_eq_false_iff_ne, beq_eq_false_iff_ne]
    exact ⟨ne [] (by decide), ne [FileName.dot] (by decide)⟩
  have up : FileName.isUp part = false :=
    beq_eq_false_iff_ne.mpr (ne [FileName.dot, FileName.dot] (by decide))
  rw [Disk.step, idle, up, if_neg Bool.false_ne_true, if_neg Bool.false_ne_true]

end Snapshot

namespace Disk

variable {d d' : Disk} {directory : String} {path : Path} {above : List Path} {name : FileName}
variable {attempt : Except FileFault Unit × Disk}

/-- What becomes of an attempt to make a directory: one that is there is as good as made. -/
def settle (name : FileName) : Except FileFault Unit × Disk → Except FileFault Unit × Disk
  | (.ok (), d) => (.ok (), d)
  | (.error fault, d) => (if d.isDirectory name then .ok () else .error fault, d)

theorem bind_apply {α β : Type} (x : StateM Disk α) (f : α → StateM Disk β) (d : Disk) :
    (x >>= f) d = f (x d).1 (x d).2 := rfl

theorem pure_apply {α : Type} (a : α) (d : Disk) : (pure a : StateM Disk α) d = (a, d) := rfl

theorem files_makeDirectory (name : FileName) (d : Disk) :
    files.makeDirectory name d = d.makeDirectory name := rfl

theorem files_isDirectory (name : FileName) (d : Disk) :
    files.isDirectory name d = (d.isDirectory name, d) := rfl

theorem makeFirst_cons (path : Path) (above : List Path) (d : Disk) :
    files.makeFirst (path :: above) d =
      match d.makeDirectory (.ofText path.text) with
      | (.error .notFound, d') =>
        match files.makeFirst above d' with
        | (.ok (), d'') => settle (.ofText path.text) (d''.makeDirectory (.ofText path.text))
        | (.error fault, d'') => (.error fault, d'')
      | attempt => settle (.ofText path.text) attempt := by
  have refused (fault : FileFault) (d : Disk) :
      (do
        if ← files.isDirectory (.ofText path.text) then return .ok ()
        else return .error fault : StateM Disk (Except FileFault Unit)) d =
        settle (.ofText path.text) (.error fault, d) := by
    cases there : d.isDirectory (.ofText path.text) <;>
      simp [bind_apply, files_isDirectory, settle, there, pure_apply]
  rw [Files.makeFirst]
  simp only [bind_apply, files_makeDirectory]
  rcases d.makeDirectory (.ofText path.text) with ⟨fault | ⟨⟩, d'⟩
  · cases fault
    case notFound =>
      simp only [bind_apply]
      rcases files.makeFirst above d' with ⟨fault | ⟨⟩, d''⟩
      · rfl
      · simp only [bind_apply, files_makeDirectory]
        rcases d''.makeDirectory (.ofText path.text) with ⟨fault | ⟨⟩, d'''⟩
        · exact refused fault d'''
        · rfl
    all_goals exact refused _ d'
  · rfl

/-- An attempt that leaves everything in its place, and succeeds only if the directory is there. -/
def Makes (d : Disk) (name : FileName) (attempt : Except FileFault Unit × Disk) : Prop :=
  Keeps (fun _ => False) d attempt.2 ∧ (attempt.1 = .ok () → attempt.2.isDirectory name = true)

theorem makes_makeDirectory (sound : d.IsSound) (name : FileName) :
    Makes d name (d.makeDirectory name) := by
  cases made : d.makeDirectory name with
  | mk result d' =>
    refine ⟨keeps_makeDirectory sound made, fun succeeded => ?_⟩
    obtain rfl : result = .ok () := succeeded
    exact isDirectory_of_makeDirectory sound made

theorem Makes.settle (h : Makes d name attempt) : Makes d name (settle name attempt) := by
  obtain ⟨result, d'⟩ := attempt
  cases result with
  | ok => exact h
  | error fault =>
    refine ⟨h.1, fun succeeded => ?_⟩
    simpa [Disk.settle] using succeeded

theorem Makes.after (keeps : Keeps (fun _ => False) d d') (h : Makes d' name attempt) :
    Makes d name attempt := ⟨keeps.trans h.1, h.2⟩

theorem makes_makeFirst_cons (sound : d.IsSound)
    (keeps : ∀ d : Disk, d.IsSound → Keeps (fun _ => False) d (files.makeFirst above d).2) :
    Makes d (.ofText path.text) (files.makeFirst (path :: above) d) := by
  have attempt := makes_makeDirectory sound (.ofText path.text)
  rw [makeFirst_cons]
  split
  · next d' none =>
    rw [none] at attempt
    have below := keeps d' attempt.1.sound
    -- Once the directories above it are there, the directory is tried a second time.
    split
    · next d'' made =>
      rw [made] at below
      exact .after (attempt.1.trans below) (makes_makeDirectory below.sound _).settle
    · next fault d'' failed =>
      rw [failed] at below
      exact ⟨attempt.1.trans below, nofun⟩
  · exact attempt.settle

theorem keeps_makeFirst (paths : List Path) (sound : d.IsSound) :
    Keeps (fun _ => False) d (files.makeFirst paths d).2 := by
  induction paths generalizing d with
  | nil => exact .refl sound
  | cons path above ih => exact (makes_makeFirst_cons sound fun d => ih).1

/-- A directory that is there is not made, nor is any above it. -/
theorem makeFirst_of_isDirectory (there : d.isDirectory (.ofText path.text) = true) :
    files.makeFirst (path :: above) d = (.ok (), d) := by
  rw [makeFirst_cons, makeDirectory_of_isDirectory there]
  simp [settle, there]

/-- The text leads to a directory, or no directory is needed for it. -/
def Leads (d : Disk) (directory : String) : Prop :=
  (Path.ofText directory).ancestors = [] ∨ d.isDirectory (.ofText directory) = true

theorem keeps_makeDirectories (sound : d.IsSound) (directory : String) :
    Keeps (fun _ => False) d (files.makeDirectories directory d).2 := keeps_makeFirst _ sound

theorem leads_of_makeDirectories (sound : d.IsSound)
    (made : (files.makeDirectories directory d).1 = .ok ()) :
    (files.makeDirectories directory d).2.Leads directory := by
  unfold Leads
  rcases Path.ancestors_ofText directory with none | ⟨above, some⟩
  · exact .inl none
  · have makes : Makes d _ (files.makeFirst (Path.ofText directory :: above) d) :=
      makes_makeFirst_cons sound fun d sound => keeps_makeFirst above sound
    rw [Path.text_ofText] at makes
    rw [Files.makeDirectories, some] at made ⊢
    exact .inr (makes.2 made)

theorem makeDirectories_of_leads (leads : d.Leads directory) :
    files.makeDirectories directory d = (.ok (), d) := by
  rw [Files.makeDirectories]
  rcases Path.ancestors_ofText directory with none | ⟨above, some⟩
  · rw [none]
    rfl
  · rw [some]
    refine makeFirst_of_isDirectory ?_
    rw [Path.text_ofText]
    exact leads.resolve_left (by simp [some])

theorem Keeps.leads {changed : Place → Prop} (h : Keeps changed d d') (sound : d.IsSound)
    (leads : d.Leads directory) : d'.Leads directory := leads.imp_right (h.isDirectory sound)

section Reaches

open Snapshot (filePath filePart)

variable {changed : Place → Prop} {place place' : Place} {file game : String} {n k : Nat}

/-- The path leads to the place, whether anything is there or not. -/
def Reaches (d : Disk) (file : String) (place : Place) : Prop :=
  d.locate (.ofText file) (FileName.ofText file).parts = .ok place

theorem Reaches.unique (h : d.Reaches file place) (h' : d.Reaches file place') : place = place' :=
  Except.ok.inj (h.symm.trans h')

theorem Keeps.reaches (h : Keeps changed d d') (sound : d.IsSound)
    (there : d.Reaches file place) : d'.Reaches file place := h.locate sound there

/-- The files of the directory stand in the one with this number. -/
def IsHome (d : Disk) (directory : String) (n : Nat) : Prop :=
  ∃ mid, d.walk (d.start (.ofText directory)) (FileName.folder directory) = .ok mid ∧
    d.lookup? mid = some (.directory n)

theorem IsHome.unique (h : d.IsHome directory n) (h' : d.IsHome directory k) : n = k := by
  obtain ⟨mid, leads, there⟩ := h
  obtain ⟨mid', leads', there'⟩ := h'
  obtain rfl : mid = mid' := Except.ok.inj (leads.symm.trans leads')
  simpa [there] using there'

/-- The path of a game's file leads to a part of its directory, which has the name of the file. -/
theorem reaches_filePath_iff : d.Reaches (filePath directory game) place ↔
    Fits (.ofText (filePath directory game)) ∧ (filePart game).length ≤ maxPartLength ∧
      ∃ n, d.IsHome directory n ∧ place = .part n (filePart game) := by
  have plain := Snapshot.slash_notMem_fileName game
  have start : d.start (.ofText (filePath directory game)) = d.start (.ofText directory) := by
    rw [Disk.start, Disk.start, filePath, FileName.isAbsolute_join plain]
  have step (n : Nat) : d.walk n [filePart game] = .ok place ↔
      (filePart game).length ≤ maxPartLength ∧ place = .part n (filePart game) := by
    rw [walk, Snapshot.step_filePart]
    split
    · next long => simp [Nat.not_le_of_lt long]
    · next short => simp [Nat.le_of_not_lt short, eq_comm]
  rw [Reaches, locate_eq_ok, start, filePath, FileName.parts_join plain,
    walk_append_eq_ok (List.cons_ne_nil _ _)]
  refine and_congr_right fun _ => ⟨?_, ?_⟩
  · rintro ⟨mid, n, leads, there, last⟩
    obtain ⟨short, rfl⟩ := (step n).mp last
    exact ⟨short, n, ⟨mid, leads, there⟩, rfl⟩
  · rintro ⟨short, n, ⟨mid, leads, there⟩, rfl⟩
    exact ⟨mid, n, leads, there, (step n).mpr ⟨short, rfl⟩⟩

theorem exists_isHome (leads : d.Leads directory) : ∃ n, d.IsHome directory n := by
  obtain ⟨idle, whole, idles⟩ := FileName.parts_directory directory
  rcases leads with none | there
  · have above : ∀ part ∈ FileName.folder directory, FileName.isIdle part = true := by
      intro part mem
      exact Path.idle_of_ancestors_eq_nil none part (whole ▸ List.mem_append_left _ mem)
    exact ⟨_, _, walk_idle above, rfl⟩
  · obtain ⟨place, k, located, held⟩ := isDirectory_eq_true.mp there
    rw [whole] at located
    obtain ⟨mid, n, leads, above⟩ := (locate_append_idle d _ _ idles).mp ⟨place, k, located, held⟩
    exact ⟨n, mid, (locate_eq_ok.mp leads).2, above⟩

end Reaches

end Disk
end SavedGames
