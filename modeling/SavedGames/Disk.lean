import SavedGames.Files

/-! A file system as a value. Its directories have numbers, and each of them holds files and other
directories under their names. A name that does not begin at the root begins at the present
directory. -/
namespace SavedGames

inductive DiskEntry where
  | directory (number : Nat)
  | file (bytes : ByteArray)

structure Directory where
  /-- The number of the directory above. -/
  parent : Nat
  /-- No name stands here twice. -/
  entries : List (List UInt8 × DiskEntry)

namespace Directory

def lookup? (d : Directory) (part : List UInt8) : Option DiskEntry := d.entries.lookup part

def erase (d : Directory) (part : List UInt8) : Directory :=
  { d with entries := d.entries.filter fun e => e.1 != part }

def insert (d : Directory) (part : List UInt8) (e : DiskEntry) : Directory :=
  { d with entries := (part, e) :: (d.erase part).entries }

theorem lookup_filter_ne (entries : List (List UInt8 × DiskEntry)) (part other : List UInt8) :
    (entries.filter fun e => e.1 != part).lookup other =
      if other = part then none else entries.lookup other := by
  induction entries with
  | nil => simp
  | cons e entries ih =>
    obtain ⟨key, value⟩ := e
    by_cases hk : key = part
    · rw [List.filter_cons_of_neg (by simp [hk]), ih, List.lookup_cons]
      by_cases ho : other = part
      · simp [ho]
      · simp [ho, hk, beq_eq_false_iff_ne.2 ho]
    · rw [List.filter_cons_of_pos (by simp [hk]), List.lookup_cons, List.lookup_cons, ih]
      by_cases ho : other = part
      · simp [ho, beq_eq_false_iff_ne.2 (Ne.symm hk)]
      · simp [ho]

/-- What is erased is no longer there, and nothing else changes. -/
@[simp]
theorem lookup?_erase (d : Directory) (part other : List UInt8) :
    (d.erase part).lookup? other = if other = part then none else d.lookup? other :=
  lookup_filter_ne d.entries part other

/-- What is inserted takes the place of what stood under its name, and nothing else changes. -/
@[simp]
theorem lookup?_insert (d : Directory) (part other : List UInt8) (e : DiskEntry) :
    (d.insert part e).lookup? other = if other = part then some e else d.lookup? other := by
  rw [lookup?, insert, List.lookup_cons]
  by_cases h : other = part
  · simp [h]
  · rw [beq_eq_false_iff_ne.2 h, if_neg h]
    exact (lookup?_erase d part other).trans (if_neg h)

end Directory

/-- Where a name leads: to a directory, or to a part in a directory, whether it is there or not. -/
inductive Place where
  | directory (number : Nat)
  | part (number : Nat) (part : List UInt8)
  deriving DecidableEq, Repr

/-- The directory with the number zero is the root, which is also above itself. -/
structure Disk where
  directories : Array Directory
  /-- The number of the present directory. -/
  present : Nat

namespace Disk

/-- There is nothing but the root. -/
def empty : Disk := ⟨#[⟨0, []⟩], 0⟩

def lookup? (d : Disk) : Place → Option DiskEntry
  | .directory number => some (.directory number)
  | .part number part => d.directories[number]?.bind fun directory => directory.lookup? part

def parent (d : Disk) (number : Nat) : Nat := (d.directories[number]?.map Directory.parent).getD 0

/-- The greatest number of bytes in a part of a name. -/
def maxPartLength : Nat := 255

/-- The greatest number of bytes in a name. -/
def maxNameLength : Nat := 4095

/-- Where a part leads from a directory. -/
def step (d : Disk) (number : Nat) (part : List UInt8) : Except FileFault Place :=
  if FileName.isIdle part then .ok (.directory number)
  else if FileName.isUp part then .ok (.directory (d.parent number))
  else if maxPartLength < part.length then .error .nameTooLong
  else .ok (.part number part)

/-- Where parts lead from a directory. All but the last one must lead to directories. -/
def walk (d : Disk) (number : Nat) : List (List UInt8) → Except FileFault Place
  | [] => .ok (.directory number)
  | [part] => d.step number part
  | part :: parts => do
    match d.lookup? (← d.step number part) with
    | none => .error .notFound
    | some (.file _) => .error .notDirectory
    | some (.directory next) => walk d next parts

def locate (d : Disk) (name : FileName) (parts : List (List UInt8)) : Except FileFault Place :=
  if name.bytes.contains 0 then .error .nulInPath
  else if name.bytes.isEmpty then .error .notFound
  else if maxNameLength < name.bytes.length then .error .nameTooLong
  else d.walk (if name.isAbsolute then 0 else d.present) parts

def find (d : Disk) (name : FileName) : Except FileFault (Place × Option DiskEntry) :=
  (d.locate name name.parts).map fun p => (p, d.lookup? p)

/-- Changes what a directory holds. -/
def modify (d : Disk) (number : Nat) (change : Directory → Directory) : Disk :=
  { d with directories := d.directories.modify number change }

/-- A directory under the given name, with the next number. -/
def addDirectory (d : Disk) (number : Nat) (part : List UInt8) : Disk :=
  let d := d.modify number fun above => above.insert part (.directory d.directories.size)
  { d with directories := d.directories.push ⟨number, []⟩ }

/-- Slashes at the end of a name do not matter for a directory to be made. -/
def makeDirectory (d : Disk) (name : FileName) : Except FileFault Unit × Disk :=
  match d.locate name (name.parts.reverse.dropWhile List.isEmpty).reverse with
  | .error fault => (.error fault, d)
  | .ok (.directory _) => (.error .alreadyExists, d)
  | .ok (.part number part) =>
    if (d.lookup? (.part number part)).isSome then (.error .alreadyExists, d)
    else (.ok (), d.addDirectory number part)

def isDirectory (d : Disk) (name : FileName) : Bool :=
  match d.find name with
  | .ok (_, some (.directory _)) => true
  | _ => false

def write (d : Disk) (name : FileName) (bytes : ByteArray) : Except FileFault Unit × Disk :=
  match d.find name with
  | .error fault => (.error fault, d)
  | .ok (.directory _, _) | .ok (_, some (.directory _)) => (.error .isDirectory, d)
  | .ok (.part number part, _) =>
    (.ok (), d.modify number fun directory => directory.insert part (.file bytes))

def read (d : Disk) (name : FileName) : Except FileFault ByteArray := do
  match ← d.find name with
  | (_, none) => .error .notFound
  | (_, some (.directory _)) => .error .isDirectory
  | (_, some (.file bytes)) => .ok bytes

def remove (d : Disk) (name : FileName) : Except FileFault Unit × Disk :=
  match d.find name with
  | .error fault => (.error fault, d)
  | .ok (.part number part, some (.file _)) =>
    (.ok (), d.modify number fun directory => directory.erase part)
  | .ok (_, some _) => (.error .isDirectory, d)
  | .ok (_, none) => (.error .notFound, d)

/-- Makes a directory the present one, if it is there. -/
def enter (d : Disk) (name : FileName) : Disk :=
  match d.find name with
  | .ok (_, some (.directory number)) => { d with present := number }
  | _ => d

def files : Files (StateM Disk) where
  makeDirectory name := fun d => d.makeDirectory name
  isDirectory name := fun d => (d.isDirectory name, d)
  write name bytes := fun d => d.write name bytes
  read name := fun d => (d.read name, d)
  remove name := fun d => d.remove name
  size name := fun d => ((d.read name).map ByteArray.size, d)

end Disk
end SavedGames
