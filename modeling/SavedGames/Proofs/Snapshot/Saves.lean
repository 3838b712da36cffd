import Mathlib
import SavedGames.Proofs.Files
import SavedGames.Proofs.Snapshot.Lossless
import SavedGames.Proofs.Snapshot.Members

/-!
# Games that are saved into one directory

Each save replaces the file of its own name and leaves all others alone. After a run of saves the
last game of each name is read back, and apart from these files the disk has what it had before.
-/
namespace SavedGames.Snapshot

open Disk (Keeps IsSound)

/-- A game to be saved, and whether its text is to be indented. -/
structure Saving where
  snapshot : Snapshot
  pretty : Bool
  deriving DecidableEq

/-- What came of each save. -/
abbrev Log := List (Saving × Except SaveError String)

/-- Saves games into a directory, one after the other. -/
def saveAll (directory : String) (saves : List Saving) : StateM Disk Log :=
  saves.mapM fun s => do return (s, ← (saveTo Disk.files directory s.pretty s.snapshot).run)

variable {d d' after : Disk} {directory path : String} {s : Saving} {saves : List Saving}
variable {log later : Log} {place : Place}

section Save

theorem run_asSaveError {α : Type} (result : StateM Disk (Except FileFault α)) (d : Disk) :
    (asSaveError result).run d = ((result d).1.mapError .file, (result d).2) := rfl

theorem run_bind {α β : Type} (x : ExceptT SaveError (StateM Disk) α)
    (f : α → ExceptT SaveError (StateM Disk) β) (d : Disk) :
    (x >>= f).run d =
      match x.run d with
      | (.error fault, d') => (.error fault, d')
      | (.ok a, d') => (f a).run d' := by
  rw [ExceptT.run_bind, Disk.bind_apply]
  rcases x.run d with ⟨fault | a, d'⟩ <;> rfl

theorem writeText_apply (path text : String) (d : Disk) :
    Disk.files.writeText path text d = d.write (.ofText path) text.toUTF8 := rfl

theorem readText_apply (path : String) (d : Disk) :
    Disk.files.readText path d = ((d.read (.ofText path)).bind textOfBytes, d) := rfl

theorem saveTo_apply (directory : String) (pretty : Bool) (m : Snapshot) (d : Disk) :
    (saveTo Disk.files directory pretty m).run d =
      match Disk.files.makeDirectories directory d with
      | (.error fault, d') => (.error (.file fault), d')
      | (.ok (), d') =>
        match d'.write (.ofText (filePath directory m.name)) (m.text pretty).toUTF8 with
        | (.error fault, d'') => (.error (.file fault), d'')
        | (.ok (), d'') => (.ok (filePath directory m.name), d'') := by
  rw [saveTo, run_bind, run_asSaveError]
  rcases Disk.files.makeDirectories directory d with ⟨fault | ⟨⟩, d'⟩
  · rfl
  · dsimp only [Except.mapError]
    rw [run_bind, run_asSaveError, writeText_apply, filePath]
    rcases d'.write _ _ with ⟨fault | ⟨⟩, d''⟩ <;> rfl

theorem loadFrom_apply (path : String) (d : Disk) :
    (loadFrom Disk.files path).run d =
      ((((d.read (.ofText path)).bind textOfBytes).mapError .file).bind ofText, d) := by
  rw [loadFrom, run_bind, run_asSaveError, readText_apply]
  cases (d.read (.ofText path)).bind textOfBytes <;> rfl

theorem textOfBytes_toUTF8 (text : String) : textOfBytes text.toUTF8 = .ok text := by
  have decoded : String.fromUTF8? text.toUTF8 = some text := dif_pos text.isValidUTF8
  rw [textOfBytes, decoded]

/-- A save that fails leaves every file as it was, and one that succeeds replaces one file, in which
the text of the game can be read. -/
theorem saveTo_cases (sound : d.IsSound) (directory : String) (pretty : Bool) (m : Snapshot)
    {outcome : Except SaveError String}
    (ran : (saveTo Disk.files directory pretty m).run d = (outcome, d')) :
    (∃ fault, outcome = .error fault ∧ Keeps (fun _ => False) d d') ∨
      ∃ n, outcome = .ok (filePath directory m.name) ∧
        d'.Reaches (filePath directory m.name) (.part n (filePart m.name)) ∧
        Keeps (· = .part n (filePart m.name)) d d' ∧
        d'.read (.ofText (filePath directory m.name)) = .ok (m.text pretty).toUTF8 := by
  have keeps := Disk.keeps_makeDirectories sound directory
  rw [saveTo_apply] at ran
  split at ran
  · next fault d₁ failed =>
    obtain ⟨rfl, rfl⟩ := Prod.mk.inj ran
    rw [failed] at keeps
    exact .inl ⟨_, rfl, keeps⟩
  · next d₁ made =>
    rw [made] at keeps
    split at ran
    · next fault d₂ failed =>
      obtain ⟨rfl, rfl⟩ := Prod.mk.inj ran
      have same : d₂ = d₁ := by
        rcases Disk.write_cases failed with ⟨-, -, same⟩ | ⟨-, -, ok, -⟩
        · exact same
        · cases ok
      exact .inl ⟨_, rfl, same ▸ keeps⟩
    · next d₂ written =>
      obtain ⟨rfl, rfl⟩ := Prod.mk.inj ran
      obtain ⟨n, part, located, replaced, read⟩ := Disk.keeps_of_write keeps.sound written
      obtain ⟨-, -, k, -, same⟩ := Disk.reaches_filePath_iff.mp located
      rw [same] at located replaced
      exact .inr ⟨k, rfl, replaced.reaches keeps.sound located,
        (keeps.mono fun _ => False.elim).trans replaced, read⟩

theorem keeps_saveTo (sound : d.IsSound) {pretty : Bool} {m : Snapshot}
    {outcome : Except SaveError String}
    (ran : (saveTo Disk.files directory pretty m).run d = (outcome, d')) :
    Keeps (fun _ => True) d d' := by
  rcases saveTo_cases sound directory pretty m ran with ⟨fault, -, keeps⟩ | ⟨n, -, -, keeps, -⟩
  · exact keeps.mono fun _ _ => trivial
  · exact keeps.mono fun _ _ => trivial

theorem loadFrom_of_read {m : Snapshot} {pretty : Bool} (narrow : m.IsNarrow)
    (checked : m.check = .ok ()) (read : d.read (.ofText path) = .ok (m.text pretty).toUTF8) :
    (loadFrom Disk.files path).run d = (.ok m, d) := by
  have text : (Except.ok (m.text pretty).toUTF8).bind textOfBytes = .ok (m.text pretty) :=
    textOfBytes_toUTF8 _
  have loaded : ofText (m.text pretty) = .ok m := by
    rw [ofText_written narrow, checked]
    rfl
  rw [loadFrom_apply, read, text, Except.mapError, Except.bind, loaded]

end Save

section Run

/-- The place is the one to which the path of a save leads. -/
def Log.Writes (log : Log) (d : Disk) (place : Place) : Prop :=
  ∃ s path, (s, .ok path) ∈ log ∧ d.Reaches path place

theorem saveAll_cons (directory : String) (s : Saving) (saves : List Saving) (d : Disk) :
    saveAll directory (s :: saves) d =
      let first := (saveTo Disk.files directory s.pretty s.snapshot).run d
      let later := saveAll directory saves first.2
      ((s, first.1) :: later.1, later.2) := by
  simp only [saveAll, List.mapM_cons, Disk.bind_apply, Disk.pure_apply]

theorem saveAll_cons_eq (ran : saveAll directory (s :: saves) d = (log, after)) :
    ∃ outcome d' later, (saveTo Disk.files directory s.pretty s.snapshot).run d = (outcome, d') ∧
      saveAll directory saves d' = (later, after) ∧ log = (s, outcome) :: later := by
  rw [saveAll_cons] at ran
  rcases saved : (saveTo Disk.files directory s.pretty s.snapshot).run d with ⟨outcome, d'⟩
  rcases others : saveAll directory saves d' with ⟨later, last⟩
  simp only [saved, others] at ran
  obtain ⟨rfl, rfl⟩ := Prod.mk.inj ran
  exact ⟨outcome, d', later, rfl, others, rfl⟩

/-- A run keeps all that is not in a place of its own files. -/
theorem keeps_saveAll (sound : d.IsSound) (ran : saveAll directory saves d = (log, after)) :
    Keeps (log.Writes after) d after := by
  induction saves generalizing d log with
  | nil =>
    obtain ⟨rfl, rfl⟩ := Prod.mk.inj ran
    exact .refl sound
  | cons s saves ih =>
    obtain ⟨outcome, d', later, saved, others, rfl⟩ := saveAll_cons_eq ran
    have first : Keeps (Log.Writes ((s, outcome) :: later) after) d d' := by
      rcases saveTo_cases sound _ _ _ saved with ⟨fault, -, keeps⟩ | ⟨n, rfl, reaches, keeps, -⟩
      · exact keeps.mono fun _ => False.elim
      · refine keeps.mono fun place here => ⟨s, _, List.mem_cons_self, here ▸ ?_⟩
        exact (ih keeps.sound others).reaches keeps.sound reaches
    refine first.trans ((ih first.sound others).mono ?_)
    rintro place ⟨t, path, mem, reaches⟩
    exact ⟨t, path, List.mem_cons_of_mem _ mem, reaches⟩

/-- Each path that was given still leads to a part of a directory that has the name of the file. -/
theorem reaches_of_mem (sound : d.IsSound) (ran : saveAll directory saves d = (log, after))
    (mem : (s, .ok path) ∈ log) : path = filePath directory s.snapshot.name ∧
      ∃ n, after.Reaches path (.part n (filePart s.snapshot.name)) := by
  induction saves generalizing d log with
  | nil =>
    obtain ⟨rfl, rfl⟩ := Prod.mk.inj ran
    cases mem
  | cons t saves ih =>
    obtain ⟨outcome, d', later, saved, others, rfl⟩ := saveAll_cons_eq ran
    rcases saveTo_cases sound _ _ _ saved with ⟨fault, rfl, keeps⟩ | ⟨n, rfl, reaches, keeps, -⟩
    · exact ih keeps.sound others (by simpa using mem)
    · rcases List.mem_cons.mp mem with same | mem
      · obtain ⟨rfl, same⟩ := Prod.mk.inj same
        obtain rfl := Except.ok.inj same
        exact ⟨rfl, n, (keeps_saveAll keeps.sound others).reaches keeps.sound reaches⟩
      · exact ih keeps.sound others mem

/-- What was saved is there until a game of the same file name is saved. -/
theorem read_of_last (sound : d.IsSound) (ran : saveAll directory saves d = (log, after))
    {before : Log} (split : log = before ++ (s, .ok path) :: later)
    (last : ∀ t p, (t, .ok p) ∈ later → fileName t.snapshot.name ≠ fileName s.snapshot.name) :
    after.read (.ofText path) = .ok (s.snapshot.text s.pretty).toUTF8 := by
  induction saves generalizing d log before with
  | nil =>
    obtain ⟨rfl, rfl⟩ := Prod.mk.inj ran
    simp at split
  | cons t saves ih =>
    obtain ⟨outcome, d', rest, saved, others, rfl⟩ := saveAll_cons_eq ran
    have sound' : d'.IsSound := (keeps_saveTo sound saved).sound
    cases before with
    | cons first before => exact ih sound' others (List.cons.inj split).2
    | nil =>
      obtain ⟨same, rfl⟩ := List.cons.inj split
      obtain ⟨rfl, rfl⟩ := Prod.mk.inj same
      rcases saveTo_cases sound _ _ _ saved with
        ⟨fault, failed, -⟩ | ⟨n, given, reaches, keeps, read⟩
      · cases failed
      · obtain rfl := Except.ok.inj given
        refine (keeps_saveAll sound' others).read sound' read ?_
        -- A later save in the same place would have the same file name.
        rintro place here ⟨u, p, mem, there⟩
        obtain ⟨-, k, other⟩ := reaches_of_mem sound' others mem
        have part : place = .part n (filePart t.snapshot.name) := Disk.Reaches.unique here reaches
        obtain ⟨-, same⟩ := Place.part.inj (part ▸ there.unique other)
        exact last u p mem (filePart_inj.mp same.symm)

/-- Once the directory is there, a game is saved if its path fits and leads to no directory. To make
the directory changes nothing. -/
theorem saveTo_of_leads (leads : d.Leads directory) (pretty : Bool) {m : Snapshot}
    (reaches : d.Reaches (filePath directory m.name) place)
    (free : d.isDirectory (.ofText (filePath directory m.name)) = false) :
    (saveTo Disk.files directory pretty m).run d = (.ok (filePath directory m.name),
      (d.write (.ofText (filePath directory m.name)) (m.text pretty).toUTF8).2) := by
  obtain ⟨-, -, n, -, rfl⟩ := Disk.reaches_filePath_iff.mp reaches
  have succeeds := Disk.write_fst_eq_ok reaches free (m.text pretty).toUTF8
  rw [saveTo_apply, Disk.makeDirectories_of_leads leads]
  dsimp only
  split
  · next fault d' failed =>
    rw [failed] at succeeds
    cases succeeds
  · next d' written => rw [written]

/-- The first save makes the directory for all of them. -/
theorem saveTo_of_made (sound : d.IsSound)
    (made : Disk.files.makeDirectories directory d = (.ok (), d')) (pretty : Bool) (m : Snapshot) :
    (saveTo Disk.files directory pretty m).run d =
      (saveTo Disk.files directory pretty m).run d' := by
  have leads := Disk.leads_of_makeDirectories sound (congrArg Prod.fst made)
  rw [made] at leads
  rw [saveTo_apply, saveTo_apply, made, Disk.makeDirectories_of_leads leads]

theorem saveAll_of_made (sound : d.IsSound)
    (made : Disk.files.makeDirectories directory d = (.ok (), d')) :
    saveAll directory (s :: saves) d = saveAll directory (s :: saves) d' := by
  rw [saveAll_cons, saveAll_cons, saveTo_of_made sound made]

/-- Once the directory is there, every game is saved whose path fits and leads to no directory. -/
theorem saveAll_of_leads (sound : d.IsSound) (leads : d.Leads directory)
    (ran : saveAll directory saves d = (log, after))
    (fits : ∀ s ∈ saves, Disk.Fits (.ofText (filePath directory s.snapshot.name)) ∧
      (filePart s.snapshot.name).length ≤ Disk.maxPartLength)
    (free : ∀ s ∈ saves,
      d.isDirectory (.ofText (filePath directory s.snapshot.name)) = false) :
    ∀ e ∈ log, e.2 = .ok (filePath directory e.1.snapshot.name) := by
  induction saves generalizing d log with
  | nil =>
    obtain ⟨rfl, rfl⟩ := Prod.mk.inj ran
    exact fun e mem => nomatch mem
  | cons s saves ih =>
    obtain ⟨outcome, d', later, saved, others, rfl⟩ := saveAll_cons_eq ran
    obtain ⟨n, home⟩ := Disk.exists_isHome leads
    have reaches (t : Saving) (mem : t ∈ s :: saves) :
        d.Reaches (filePath directory t.snapshot.name) (.part n (filePart t.snapshot.name)) :=
      Disk.reaches_filePath_iff.mpr ⟨(fits t mem).1, (fits t mem).2, n, home, rfl⟩
    have success := saveTo_of_leads leads s.pretty (reaches s List.mem_cons_self)
      (free s List.mem_cons_self)
    rw [saved] at success
    obtain ⟨rfl, written⟩ := Prod.mk.inj success
    have keeps := keeps_saveTo sound saved
    have free' (t : Saving) (mem : t ∈ saves) :
        d'.isDirectory (.ofText (filePath directory t.snapshot.name)) = false := by
      have mem := List.mem_cons_of_mem s mem
      rw [Bool.eq_false_iff]
      intro there
      have before :=
        Disk.isDirectory_of_write sound (written ▸ Prod.mk.eta.symm) (reaches t mem) there
      rw [free t mem] at before
      cases before
    have rest := ih keeps.sound (keeps.leads sound leads) others
      (fun t mem => fits t (List.mem_cons_of_mem s mem)) free'
    exact List.forall_mem_cons.mpr ⟨rfl, rest⟩

theorem map_fst_saveAll (ran : saveAll directory saves d = (log, after)) :
    log.map Prod.fst = saves := by
  induction saves generalizing d log with
  | nil =>
    obtain ⟨rfl, rfl⟩ := Prod.mk.inj ran
    rfl
  | cons s saves ih =>
    obtain ⟨outcome, d', later, saved, others, rfl⟩ := saveAll_cons_eq ran
    rw [List.map_cons, ih others]

end Run

section Apart

/-- What a run of saves into one directory must do. -/
structure SavesApart (directory : String) (saves : List Saving) (d : Disk) (log : Log)
    (after : Disk) : Prop where
  /-- Each save comes to something, one after the other. -/
  logged : log.map Prod.fst = saves
  /-- The file of a game has a plain name, with a character for each one of the game's name. -/
  named : ∀ s ∈ saves, IsFileNameOf s.snapshot.name (fileName s.snapshot.name)
  /-- The path that is given is that of this file in the directory. -/
  path : ∀ s path, (s, .ok path) ∈ log → path = Path.join directory (fileName s.snapshot.name)
  /-- All the paths lead to one directory. -/
  inside : ∃ n, ∀ s path, (s, .ok path) ∈ log →
    after.Reaches path (.part n (FileName.ofText (fileName s.snapshot.name)).bytes)
  /-- The last game that was saved in a file is read back from it. -/
  loads : ∀ before s path later, log = before ++ (s, .ok path) :: later →
    (∀ t p, (t, .ok p) ∈ later → fileName t.snapshot.name ≠ fileName s.snapshot.name) →
      (loadFrom Disk.files path).run after = (.ok s.snapshot, after)
  /-- All other files are as they were. -/
  files : ∀ place bytes, (∀ s path, (s, .ok path) ∈ log → ¬ after.Reaches path place) →
    (after.lookup? place = some (.file bytes) ↔ d.lookup? place = some (.file bytes))
  /-- No directory is lost. -/
  directories : ∀ place n, d.lookup? place = some (.directory n) →
    after.lookup? place = some (.directory n)
  /-- Where the directory can be made, every save succeeds whose file name and path are not too long
  and whose path leads to no directory. -/
  saved : ∀ made, Disk.files.makeDirectories directory d = (.ok (), made) →
    (∀ s ∈ saves, (FileName.ofText (fileName s.snapshot.name)).bytes.length ≤ 255 ∧
      Disk.Fits (.ofText (Path.join directory (fileName s.snapshot.name))) ∧
      made.isDirectory (.ofText (Path.join directory (fileName s.snapshot.name))) = false) →
    ∀ e ∈ log, e.2 = .ok (Path.join directory (fileName e.1.snapshot.name))

theorem saveAll_apart (sound : d.IsSound)
    (loadable : ∀ s ∈ saves, s.snapshot.check = .ok () ∧ s.snapshot.seats.length < 2 ^ 31)
    (ran : saveAll directory saves d = (log, after)) :
    SavesApart directory saves d log after where
  logged := map_fst_saveAll ran
  named s _ := isFileNameOf_fileName s.snapshot.name
  path s path mem := (reaches_of_mem sound ran mem).1
  inside := by
    by_cases any : ∃ s path, (s, .ok path) ∈ log
    · obtain ⟨s, path, mem⟩ := any
      obtain ⟨rfl, n, reaches⟩ := reaches_of_mem sound ran mem
      obtain ⟨-, -, k, home, -⟩ := Disk.reaches_filePath_iff.mp reaches
      refine ⟨k, fun t path mem => ?_⟩
      obtain ⟨rfl, l, reaches⟩ := reaches_of_mem sound ran mem
      obtain ⟨-, -, j, home', part⟩ := Disk.reaches_filePath_iff.mp reaches
      rw [part, home'.unique home] at reaches
      exact reaches
    · exact ⟨0, fun s path mem => absurd ⟨s, path, mem⟩ any⟩
  loads before s path later split last := by
    have mem : s ∈ saves := by
      rw [← map_fst_saveAll ran, split]
      simp
    obtain ⟨checked, small⟩ := loadable s mem
    have narrow : s.snapshot.IsNarrow := (check_eq_ok.mp checked).isNarrow small
    exact loadFrom_of_read narrow checked (read_of_last sound ran split last)
  files place bytes other := (keeps_saveAll sound ran).file place bytes
    fun ⟨s, path, mem, reaches⟩ => other s path mem reaches
  directories := (keeps_saveAll sound ran).directory
  saved made h ready := by
    have keeps := Disk.keeps_makeDirectories sound directory
    have leads := Disk.leads_of_makeDirectories sound (congrArg Prod.fst h)
    rw [h] at keeps leads
    cases saves with
    | nil =>
      obtain ⟨rfl, rfl⟩ := Prod.mk.inj ran
      exact fun e mem => nomatch mem
    | cons s saves =>
      rw [saveAll_of_made sound h] at ran
      exact saveAll_of_leads keeps.sound leads ran
        (fun s mem => ⟨(ready s mem).2.1, (ready s mem).1⟩) fun s mem => (ready s mem).2.2

/-- Of three games the first and the last have names that differ only where there are no plain
characters. -/
def specimenSaves : List Saving :=
  [⟨{ specimen with name := "../Réfuge", dice := 2 }, true⟩,
    ⟨{ specimen with name := "b-1", dice := 3 }, false⟩,
    ⟨{ specimen with name := "...R fuge", dice := 4 }, false⟩]

theorem specimenSaves_apart :
    ∃ log after, saveAll "saves" specimenSaves .empty = (log, after) ∧
      log.map Prod.snd = [.ok "saves/___R_fuge.game.json", .ok "saves/b-1.game.json",
        .ok "saves/___R_fuge.game.json"] ∧
      (loadFrom Disk.files "saves/___R_fuge.game.json").run after =
        (.ok { specimen with name := "...R fuge", dice := 4 }, after) ∧
      (loadFrom Disk.files "saves/b-1.game.json").run after =
        (.ok { specimen with name := "b-1", dice := 3 }, after) := by
  have loadable : ∀ s ∈ specimenSaves,
      s.snapshot.check = .ok () ∧ s.snapshot.seats.length < 2 ^ 31 := by decide +kernel
  have logged : (saveAll "saves" specimenSaves .empty).1 =
      [(⟨{ specimen with name := "../Réfuge", dice := 2 }, true⟩, .ok "saves/___R_fuge.game.json"),
        (⟨{ specimen with name := "b-1", dice := 3 }, false⟩, .ok "saves/b-1.game.json"),
        (⟨{ specimen with name := "...R fuge", dice := 4 }, false⟩,
          .ok "saves/___R_fuge.game.json")] := by decide +kernel
  cases ran : saveAll "saves" specimenSaves .empty with
  | mk log after =>
    have apart := saveAll_apart Disk.isSound_empty loadable ran
    rw [ran] at logged
    obtain rfl : log = _ := logged
    refine ⟨_, after, rfl, rfl, ?_, ?_⟩
    · exact apart.loads [_, _] _ _ [] rfl nofun
    · refine apart.loads [_] _ _ [_] rfl fun t p mem => ?_
      obtain ⟨rfl, -⟩ := Prod.mk.inj (List.mem_singleton.mp mem)
      decide +kernel

end Apart

end SavedGames.Snapshot
