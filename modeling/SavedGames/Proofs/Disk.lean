import Mathlib
import SavedGames.Disk

/-!
# What a disk keeps

A disk is sound if it has every directory that it speaks of. To make a directory or to write a file
keeps it sound and leaves everything in its place, except for the file that is written. What is
written is therefore read back until something is written in the same place again.
-/
namespace SavedGames

namespace Place

/-- The directory in which the place is, or which it is. -/
def number : Place → Nat
  | directory number => number
  | part number _ => number

end Place

namespace Disk

variable {d d' d'' : Disk} {n k : Nat} {part : List UInt8} {parts more : List (List UInt8)}
variable {place : Place} {name : FileName} {bytes : ByteArray} {e : DiskEntry}

/-- There is a directory with this number. -/
def Has (d : Disk) (n : Nat) : Prop := n < d.directories.size

section Walk

theorem walk_cons_eq_ok (nonempty : parts ≠ []) : d.walk n (part :: parts) = .ok place ↔
    ∃ mid k, d.step n part = .ok mid ∧ d.lookup? mid = some (.directory k) ∧
      d.walk k parts = .ok place := by
  rw [walk.eq_3 _ _ _ _ nonempty]
  cases there : d.step n part with
  | error fault => simp [bind, Except.bind]
  | ok mid => cases held : d.lookup? mid with
    | none => simp [bind, Except.bind, held]
    | some e => cases e <;> simp [bind, Except.bind, held]

/-- The first parts lead to a directory, and the others lead on from there. -/
theorem walk_append_eq_ok (nonempty : more ≠ []) : d.walk n (parts ++ more) = .ok place ↔
    ∃ mid k, d.walk n parts = .ok mid ∧ d.lookup? mid = some (.directory k) ∧
      d.walk k more = .ok place := by
  induction parts generalizing n with
  | nil => simp [walk, lookup?]
  | cons part parts ih =>
    rw [List.cons_append, walk_cons_eq_ok (by simp [nonempty])]
    simp only [ih]
    rcases eq_or_ne parts [] with rfl | others
    · simp [walk, lookup?]
    · simp only [walk_cons_eq_ok others]
      constructor
      · rintro ⟨mid, k, first, above, low, l, rest, below, last⟩
        exact ⟨low, l, ⟨mid, k, first, above, rest⟩, below, last⟩
      · rintro ⟨low, l, ⟨mid, k, first, above, rest⟩, below, last⟩
        exact ⟨mid, k, first, above, low, l, rest, below, last⟩

/-- Idle parts lead nowhere. -/
theorem walk_idle (idle : ∀ part ∈ parts, FileName.isIdle part = true) :
    d.walk n parts = .ok (.directory n) := by
  induction parts with
  | nil => rfl
  | cons part parts ih =>
    have here : d.step n part = .ok (.directory n) := by simp [step, idle part]
    rcases eq_or_ne parts [] with rfl | others
    · exact here
    · rw [walk_cons_eq_ok others]
      exact ⟨_, n, here, rfl, ih fun part mem => idle part (List.mem_cons_of_mem _ mem)⟩

end Walk

section Sound

/-- Whatever is said to be a directory is one. -/
structure IsSound (d : Disk) : Prop where
  present : d.Has d.present
  parent : ∀ n, d.Has (d.parent n)
  entries : ∀ n part k, d.lookup? (.part n part) = some (.directory k) → d.Has k

theorem isSound_empty : empty.IsSound where
  present := Nat.zero_lt_one
  parent n := by cases n <;> exact Nat.zero_lt_one
  entries n part k there := by cases n <;> simp [empty, lookup?, Directory.lookup?] at there

theorem IsSound.root (h : d.IsSound) : d.Has 0 := Nat.zero_lt_of_lt h.present

theorem IsSound.has_step (h : d.IsSound) (hn : d.Has n) (there : d.step n part = .ok place) :
    d.Has place.number := by
  unfold step at there
  split_ifs at there
  · exact Except.ok.inj there ▸ hn
  · exact Except.ok.inj there ▸ h.parent n
  · exact Except.ok.inj there ▸ hn

theorem IsSound.has_directory (h : d.IsSound) (hp : d.Has place.number)
    (there : d.lookup? place = some (.directory k)) : d.Has k := by
  cases place with
  | directory number =>
    obtain rfl : number = k := by simpa [lookup?] using there
    exact hp
  | part number part => exact h.entries number part k there

theorem IsSound.has_walk (h : d.IsSound) (hn : d.Has n) (there : d.walk n parts = .ok place) :
    d.Has place.number := by
  induction parts generalizing n with
  | nil => exact Except.ok.inj there ▸ hn
  | cons part parts ih =>
    rcases eq_or_ne parts [] with rfl | others
    · exact h.has_step hn there
    · obtain ⟨mid, k, first, above, rest⟩ := (walk_cons_eq_ok others).mp there
      exact ih (h.has_directory (h.has_step hn first) above) rest

/-- Where a name begins to lead from. -/
def start (d : Disk) (name : FileName) : Nat := if name.isAbsolute then 0 else d.present

theorem IsSound.has_start (h : d.IsSound) (name : FileName) : d.Has (d.start name) := by
  unfold start
  split
  · exact h.root
  · exact h.present

end Sound

section Keeps

/-- The second disk is sound, it has every directory of the first one, and its files are the same
but for those in places that have changed. -/
structure Keeps (changed : Place → Prop) (d d' : Disk) : Prop where
  sound : d'.IsSound
  present : d'.present = d.present
  has : ∀ n, d.Has n → d'.Has n
  parent : ∀ n, d.Has n → d'.parent n = d.parent n
  directory : ∀ place k, d.lookup? place = some (.directory k) →
    d'.lookup? place = some (.directory k)
  file : ∀ place bytes, ¬ changed place →
    (d'.lookup? place = some (.file bytes) ↔ d.lookup? place = some (.file bytes))

variable {changed changed' : Place → Prop}

theorem Keeps.refl (h : d.IsSound) : Keeps changed d d where
  sound := h
  present := rfl
  has _ := id
  parent _ _ := rfl
  directory _ _ := id
  file _ _ _ := Iff.rfl

theorem Keeps.mono (h : Keeps changed d d') (le : ∀ place, changed place → changed' place) :
    Keeps changed' d d' :=
  { h with file := fun place bytes same => h.file place bytes (mt (le place) same) }

theorem Keeps.trans (h : Keeps changed d d') (h' : Keeps changed d' d'') :
    Keeps changed d d'' where
  sound := h'.sound
  present := h'.present.trans h.present
  has n hn := h'.has n (h.has n hn)
  parent n hn := (h'.parent n (h.has n hn)).trans (h.parent n hn)
  directory place k there := h'.directory place k (h.directory place k there)
  file place bytes same := (h'.file place bytes same).trans (h.file place bytes same)

theorem Keeps.step (h : Keeps changed d d') (hn : d.Has n) : d'.step n part = d.step n part := by
  rw [Disk.step, Disk.step, h.parent n hn]

/-- What led somewhere leads there still. -/
theorem Keeps.walk (h : Keeps changed d d') (sound : d.IsSound) (hn : d.Has n)
    (there : d.walk n parts = .ok place) : d'.walk n parts = .ok place := by
  induction parts generalizing n with
  | nil => exact there
  | cons part parts ih =>
    rcases eq_or_ne parts [] with rfl | others
    · exact (h.step hn).trans there
    · rw [walk_cons_eq_ok others] at there ⊢
      obtain ⟨mid, k, first, above, rest⟩ := there
      have below : d.Has k := sound.has_directory (sound.has_step hn first) above
      exact ⟨mid, k, (h.step hn).trans first, h.directory mid k above, ih below rest⟩

end Keeps

section Locate

/-- A name with no zero byte that is neither empty nor too long. -/
structure Fits (name : FileName) : Prop where
  zero : (0 : UInt8) ∉ name.bytes
  nonempty : name.bytes ≠ []
  short : name.bytes.length ≤ maxNameLength

theorem locate_eq_ok :
    d.locate name parts = .ok place ↔ Fits name ∧ d.walk (d.start name) parts = .ok place := by
  unfold locate
  rw [← start]
  split_ifs with zero empty long
  · simp only [List.contains_iff_mem] at zero
    exact iff_of_false nofun fun ⟨fits, _⟩ => fits.zero zero
  · exact iff_of_false nofun fun ⟨fits, _⟩ => fits.nonempty (List.isEmpty_iff.mp empty)
  · exact iff_of_false nofun fun ⟨fits, _⟩ => Nat.not_le_of_lt long fits.short
  · simp only [List.contains_iff_mem] at zero
    exact (and_iff_right ⟨zero, mt List.isEmpty_iff.mpr empty, Nat.le_of_not_lt long⟩).symm

theorem find_eq_ok {held : Option DiskEntry} : d.find name = .ok (place, held) ↔
    d.locate name name.parts = .ok place ∧ d.lookup? place = held := by
  unfold find
  cases d.locate name name.parts with
  | error fault => simp [Except.map]
  | ok there =>
    simp only [Except.map, Except.ok.injEq, Prod.mk.injEq]
    exact and_congr_right fun same => same ▸ Iff.rfl

theorem isDirectory_eq_true : d.isDirectory name = true ↔
    ∃ place k, d.locate name name.parts = .ok place ∧ d.lookup? place = some (.directory k) := by
  simp only [← find_eq_ok, isDirectory]
  split
  · next place k there => simp [there]
  · next other => simpa using other

theorem read_eq_ok : d.read name = .ok bytes ↔
    ∃ place, d.locate name name.parts = .ok place ∧ d.lookup? place = some (.file bytes) := by
  simp only [← find_eq_ok, read]
  rcases d.find name with fault | ⟨place, _ | e⟩
  · simp [bind, Except.bind]
  · simp [bind, Except.bind]
  · cases e <;> simp [bind, Except.bind]

variable {changed : Place → Prop}

theorem IsSound.has_locate (h : d.IsSound) (there : d.locate name parts = .ok place) :
    d.Has place.number :=
  h.has_walk (h.has_start name) (locate_eq_ok.mp there).2

theorem Keeps.locate (h : Keeps changed d d') (sound : d.IsSound)
    (there : d.locate name parts = .ok place) : d'.locate name parts = .ok place := by
  obtain ⟨fits, leads⟩ := locate_eq_ok.mp there
  have start : d'.start name = d.start name := by rw [Disk.start, Disk.start, h.present]
  rw [locate_eq_ok, start]
  exact ⟨fits, h.walk sound (sound.has_start name) leads⟩

theorem Keeps.isDirectory (h : Keeps changed d d') (sound : d.IsSound)
    (there : d.isDirectory name = true) : d'.isDirectory name = true := by
  obtain ⟨place, k, located, held⟩ := isDirectory_eq_true.mp there
  exact isDirectory_eq_true.mpr ⟨place, k, h.locate sound located, h.directory place k held⟩

/-- A file is read as before, unless something is written in its place. -/
theorem Keeps.read (h : Keeps changed d d') (sound : d.IsSound)
    (there : d.read name = .ok bytes)
    (same : ∀ place, d.locate name name.parts = .ok place → ¬ changed place) :
    d'.read name = .ok bytes := by
  obtain ⟨place, located, held⟩ := read_eq_ok.mp there
  refine read_eq_ok.mpr ⟨place, h.locate sound located, ?_⟩
  exact (h.file place bytes (same place located)).mpr held

end Locate

section Insert

theorem lookup?_insert (hn : d.Has n) (place : Place) :
    (d.modify n fun directory => directory.insert part e).lookup? place =
      if place = .part n part then some e else d.lookup? place := by
  cases place with
  | directory number => rfl
  | part number other =>
    have there : d.directories[n]? = some d.directories[n] := Array.getElem?_eq_getElem hn
    rcases eq_or_ne n number with rfl | differ
    · by_cases same : other = part <;>
        simp [lookup?, modify, Array.getElem?_modify, there, same]
    · simp [lookup?, modify, Array.getElem?_modify, differ, differ.symm]

theorem parent_insert (m : Nat) :
    (d.modify n fun directory => directory.insert part e).parent m = d.parent m := by
  unfold parent modify
  rw [Array.getElem?_modify]
  split
  · cases d.directories[m]? <;> rfl
  · rfl

theorem has_modify {change : Directory → Directory} (m : Nat) :
    (d.modify n change).Has m ↔ d.Has m := by
  simp [Has, modify]

theorem IsSound.insert_file (h : d.IsSound) (hn : d.Has n) :
    (d.modify n fun directory => directory.insert part (.file bytes)).IsSound where
  present := (has_modify _).mpr h.present
  parent m := by
    rw [parent_insert, has_modify]
    exact h.parent m
  entries m other k there := by
    rw [lookup?_insert hn] at there
    split at there
    · cases there
    · exact (has_modify k).mpr (h.entries m other k there)

/-- A file that is written takes the place of another one or stands where nothing was. -/
theorem keeps_write (sound : d.IsSound) (hn : d.Has n)
    (free : ∀ k, d.lookup? (.part n part) ≠ some (.directory k)) :
    Keeps (· = .part n part) d
      (d.modify n fun directory => directory.insert part (.file bytes)) where
  sound := sound.insert_file hn
  present := rfl
  has m := (has_modify m).mpr
  parent m _ := parent_insert m
  directory place k there := by
    have other : place ≠ .part n part := by
      rintro rfl
      exact free k there
    rw [lookup?_insert hn, if_neg other]
    exact there
  file place bytes other := by rw [lookup?_insert hn, if_neg other]

theorem getElem?_addDirectory (m : Nat) :
    (d.addDirectory n part).directories[m]? =
      if m = d.directories.size then some ⟨n, []⟩
      else (d.modify n fun above =>
        above.insert part (.directory d.directories.size)).directories[m]? := by
  simp only [addDirectory, Array.getElem?_push, modify, Array.size_modify]

theorem lookup?_addDirectory (hn : d.Has n) (place : Place) :
    (d.addDirectory n part).lookup? place =
      if place = .part n part then some (.directory d.directories.size) else d.lookup? place := by
  rw [← lookup?_insert hn]
  cases place with
  | directory number => rfl
  | part number other =>
    rw [lookup?, getElem?_addDirectory]
    split
    · next last =>
      simp [last, lookup?, modify, Directory.lookup?]
    · rfl

theorem parent_addDirectory (m : Nat) :
    (d.addDirectory n part).parent m = if m = d.directories.size then n else d.parent m := by
  rw [parent, getElem?_addDirectory]
  split
  · rfl
  · exact parent_insert m

theorem has_addDirectory (m : Nat) :
    (d.addDirectory n part).Has m ↔ m ≤ d.directories.size := by
  simp [Has, addDirectory, modify]

theorem has_addDirectory_of_has {m : Nat} (hm : d.Has m) : (d.addDirectory n part).Has m :=
  (has_addDirectory m).mpr (Nat.le_of_lt hm)

theorem IsSound.addDirectory (h : d.IsSound) (hn : d.Has n) : (d.addDirectory n part).IsSound where
  present := has_addDirectory_of_has h.present
  parent m := by
    rw [parent_addDirectory]
    split
    · exact has_addDirectory_of_has hn
    · exact has_addDirectory_of_has (h.parent m)
  entries m other k there := by
    rw [lookup?_addDirectory hn] at there
    split at there
    · obtain rfl : d.directories.size = k := by simpa using there
      exact (has_addDirectory _).mpr le_rfl
    · exact has_addDirectory_of_has (h.entries m other k there)

/-- A directory that is made stands where nothing was, and nothing is in it. -/
theorem keeps_addDirectory (sound : d.IsSound) (hn : d.Has n)
    (free : d.lookup? (.part n part) = none) :
    Keeps (fun _ => False) d (d.addDirectory n part) where
  sound := sound.addDirectory hn
  present := rfl
  has _ := has_addDirectory_of_has
  parent m hm := by rw [parent_addDirectory, if_neg (Nat.ne_of_lt hm)]
  directory place k there := by
    have other : place ≠ .part n part := by
      rintro rfl
      simp [free] at there
    rw [lookup?_addDirectory hn, if_neg other]
    exact there
  file place bytes _ := by
    rw [lookup?_addDirectory hn]
    split
    · next same => simp [same, free]
    · rfl

end Insert

section Outcomes

variable {made : Except FileFault Unit}

/-- A write either fails and leaves the disk as it was, or puts the file where no directory is. -/
theorem write_cases (h : d.write name bytes = (made, d')) :
    (∃ fault, made = .error fault ∧ d' = d) ∨
      ∃ n part, made = .ok () ∧ d.locate name name.parts = .ok (.part n part) ∧
        (∀ k, d.lookup? (.part n part) ≠ some (.directory k)) ∧
        d' = d.modify n fun directory => directory.insert part (.file bytes) := by
  unfold write at h
  split at h
  case h_1 fault _ => exact .inl ⟨fault, (Prod.mk.inj h).1.symm, (Prod.mk.inj h).2.symm⟩
  case h_2 => exact .inl ⟨_, (Prod.mk.inj h).1.symm, (Prod.mk.inj h).2.symm⟩
  case h_3 => exact .inl ⟨_, (Prod.mk.inj h).1.symm, (Prod.mk.inj h).2.symm⟩
  case h_4 n part held free found =>
    obtain ⟨located, rfl⟩ := find_eq_ok.mp found
    exact .inr ⟨n, part, (Prod.mk.inj h).1.symm, located, free, (Prod.mk.inj h).2.symm⟩

/-- A directory is either not made, and the disk is as it was, or it is made where nothing was. -/
theorem makeDirectory_cases (h : d.makeDirectory name = (made, d')) :
    (∃ fault, made = .error fault ∧ d' = d) ∨
      ∃ n part, made = .ok () ∧
        d.locate name (name.parts.rdropWhile List.isEmpty) = .ok (.part n part) ∧
        d.lookup? (.part n part) = none ∧ d' = d.addDirectory n part := by
  unfold makeDirectory at h
  split at h
  case h_1 fault _ => exact .inl ⟨fault, (Prod.mk.inj h).1.symm, (Prod.mk.inj h).2.symm⟩
  case h_2 => exact .inl ⟨_, (Prod.mk.inj h).1.symm, (Prod.mk.inj h).2.symm⟩
  case h_3 n part located =>
    split at h
    · exact .inl ⟨_, (Prod.mk.inj h).1.symm, (Prod.mk.inj h).2.symm⟩
    · next free =>
      exact .inr ⟨n, part, (Prod.mk.inj h).1.symm, located, by simpa using free,
        (Prod.mk.inj h).2.symm⟩

theorem keeps_makeDirectory (sound : d.IsSound) (h : d.makeDirectory name = (made, d')) :
    Keeps (fun _ => False) d d' := by
  rcases makeDirectory_cases h with ⟨fault, -, rfl⟩ | ⟨n, part, -, located, free, rfl⟩
  · exact .refl sound
  · exact keeps_addDirectory sound (sound.has_locate located) free

/-- What a write reaches is a part of a directory, and there it is read back. -/
theorem keeps_of_write (sound : d.IsSound) (h : d.write name bytes = (.ok (), d')) :
    ∃ n part, d.locate name name.parts = .ok (.part n part) ∧
      Keeps (· = .part n part) d d' ∧ d'.read name = .ok bytes := by
  rcases write_cases h with ⟨fault, failed, -⟩ | ⟨n, part, -, located, free, rfl⟩
  · cases failed
  · have hn : d.Has n := sound.has_locate located
    have keeps : Keeps (· = .part n part) d
        (d.modify n fun directory => directory.insert part (.file bytes)) :=
      keeps_write sound hn free
    refine ⟨n, part, located, keeps, read_eq_ok.mpr ⟨_, keeps.locate sound located, ?_⟩⟩
    rw [lookup?_insert hn, if_pos rfl]

/-- A write succeeds wherever there is no directory in its place. -/
theorem write_fst_eq_ok (located : d.locate name name.parts = .ok (.part n part))
    (free : d.isDirectory name = false) (bytes : ByteArray) :
    (d.write name bytes).1 = .ok () := by
  unfold write
  cases held : d.lookup? (.part n part) with
  | none => rw [find_eq_ok.mpr ⟨located, held⟩]
  | some e =>
    rw [find_eq_ok.mpr ⟨located, held⟩]
    cases e with
    | file old => rfl
    | directory k =>
      rw [isDirectory_eq_true.mpr ⟨_, k, located, held⟩] at free
      cases free

/-- A write makes no directory. -/
theorem isDirectory_of_write {other : FileName} (sound : d.IsSound)
    (h : d.write name bytes = (made, d')) (located : d.locate other other.parts = .ok place)
    (there : d'.isDirectory other = true) : d.isDirectory other = true := by
  rcases write_cases h with ⟨-, -, rfl⟩ | ⟨n, part, rfl, target, free, rfl⟩
  · exact there
  · have hn : d.Has n := sound.has_locate target
    obtain ⟨mid, k, located', held⟩ := isDirectory_eq_true.mp there
    rw [(keeps_write sound hn free).locate sound located] at located'
    obtain rfl : place = mid := Except.ok.inj located'
    rw [lookup?_insert hn] at held
    split at held
    · cases held
    · exact isDirectory_eq_true.mpr ⟨place, k, located, held⟩

/-- Idle parts do not matter for a directory. -/
theorem locate_append_idle (d : Disk) (name : FileName) (parts : List (List UInt8))
    (idle : ∀ part ∈ more, FileName.isIdle part = true) :
    (∃ place k, d.locate name (parts ++ more) = .ok place ∧
        d.lookup? place = some (.directory k)) ↔
      ∃ place k, d.locate name parts = .ok place ∧ d.lookup? place = some (.directory k) := by
  rcases eq_or_ne more [] with rfl | nonempty
  · rw [List.append_nil]
  · simp only [locate_eq_ok, walk_append_eq_ok nonempty, walk_idle idle]
    constructor
    · rintro ⟨place, k, ⟨fits, mid, l, leads, above, -⟩, -⟩
      exact ⟨mid, l, ⟨fits, leads⟩, above⟩
    · rintro ⟨mid, k, ⟨fits, leads⟩, above⟩
      exact ⟨.directory k, k, ⟨fits, mid, k, leads, above, rfl⟩, rfl⟩

theorem isDirectory_iff_trimmed : d.isDirectory name = true ↔
    ∃ place k, d.locate name (name.parts.rdropWhile List.isEmpty) = .ok place ∧
      d.lookup? place = some (.directory k) := by
  have idle : ∀ part ∈ name.parts.rtakeWhile List.isEmpty, FileName.isIdle part = true := by
    intro part mem
    have empty := List.mem_rtakeWhile_imp mem
    simp [FileName.isIdle, List.isEmpty_iff.mp empty]
  have trimmed := locate_append_idle d name (name.parts.rdropWhile List.isEmpty) idle
  rw [List.rdropWhile_append_rtakeWhile] at trimmed
  exact isDirectory_eq_true.trans trimmed

/-- A directory that is there is not made again. -/
theorem makeDirectory_of_isDirectory (h : d.isDirectory name = true) :
    d.makeDirectory name = (.error .alreadyExists, d) := by
  obtain ⟨place, k, located, held⟩ := isDirectory_iff_trimmed.mp h
  rw [List.rdropWhile] at located
  unfold makeDirectory
  rw [located]
  cases place with
  | directory number => rfl
  | part number part => exact if_pos (by rw [held]; rfl)

theorem isDirectory_of_makeDirectory (sound : d.IsSound)
    (h : d.makeDirectory name = (.ok (), d')) : d'.isDirectory name = true := by
  have keeps := keeps_makeDirectory sound h
  rcases makeDirectory_cases h with ⟨fault, failed, -⟩ | ⟨n, part, -, located, -, rfl⟩
  · cases failed
  · have hn : d.Has n := sound.has_locate located
    refine isDirectory_iff_trimmed.mpr
      ⟨_, d.directories.size, keeps.locate sound located, ?_⟩
    rw [lookup?_addDirectory hn, if_pos rfl]

end Outcomes

end Disk
end SavedGames
