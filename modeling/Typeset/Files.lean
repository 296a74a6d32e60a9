import Typeset.Path
import Typeset.Text.Utf8
import Typeset.Text.Lines

/-!
# Files

A tree of files and directories. Every entry is known by the names on the way to it from `/`, and
`..` in a path is carried out on the tree: the component before it has to be a directory that is
there. Texts are read as UTF-8 with replacement characters and with every kind of line end turned
into a line feed.

## Main definitions

* `FileError`: why something cannot be done to a file
* `Files`: a tree with a working directory
* `Files.find`, `Files.probe`: the entry that a path leads to, and whether there is one
* `Files.read`, `Files.readText`, `Files.list`: what files and directories hold
* `Files.unlink`, `Files.create`, `Files.write`, `Files.insert`: changes

## Main results

* `Files.node?_remove_of_ne`: removing an entry leaves the others
* `Files.find_of_unlink`: a successful `unlink` takes away the file that the path leads to
-/

namespace Typeset

/-- Why something cannot be done to a file. -/
inductive FileError where
  | missing
  | denied
  | notDirectory
  | isDirectory
  | nameTooLong
  /-- The path holds a character that no path can hold, so the file was not even asked for. -/
  | unnameable
  deriving DecidableEq, Repr

namespace FileError

/-- The number of an error. -/
def code : FileError → Nat
  | missing => 2
  | denied => 13
  | notDirectory => 20
  | isDirectory => 21
  | nameTooLong => 36
  | unnameable => 22

/-- The error in words. -/
def reason : FileError → String
  | missing => "No such file or directory"
  | denied => "Permission denied"
  | notDirectory => "Not a directory"
  | isDirectory => "Is a directory"
  | nameTooLong => "File name too long"
  | unnameable => "embedded null byte"

/-- The name of the kind of an error. -/
def kind : FileError → String
  | missing => "FileNotFoundError"
  | denied => "PermissionError"
  | notDirectory => "NotADirectoryError"
  | isDirectory => "IsADirectoryError"
  | nameTooLong => "OSError"
  | unnameable => "ValueError"

/-- Whether something was refused that was asked for. -/
def isRefusal (e : FileError) : Bool := e ≠ unnameable

end FileError

/-- An entry of a tree. -/
inductive Node where
  | file (data : ByteArray)
  | directory

/-- Whether an entry is a directory. -/
def Node.isDirectory : Node → Bool
  | file _ => false
  | directory => true

/-- The names on the way from `/` to an entry, outermost first. -/
abbrev Place := List Text

/-- A tree of files and directories, seen from a working directory. -/
structure Files where
  /-- The entries; `/` itself is not listed. -/
  nodes : List (Place × Node) := []
  /-- The working directory. -/
  cwd : Place := []
  /-- The entries that cannot be removed. -/
  pinned : List Place := []

namespace Files

/-- The entry at a place. -/
def node? (t : Files) (place : Place) : Option Node :=
  if place = [] then some .directory else t.nodes.lookup place

/-- Whether there is a directory at a place. -/
def isDirectoryAt (t : Files) (place : Place) : Bool := (t.node? place).any Node.isDirectory

/-- The most bytes that a component name may have. -/
def mostNameBytes : Nat := 255

/-- The most bytes that a path may have. -/
def mostPathBytes : Nat := 4095

/-- The place that component names lead to from a directory. -/
def follow (t : Files) : (start : Place) → List Text → Except FileError Place
  | start, [] => .ok start
  | start, n :: names =>
    if !t.isDirectoryAt start then .error .notDirectory
    else if n = Path.dotDot then t.follow start.dropLast names
    else if mostNameBytes < (Text.str n).utf8ByteSize then .error .nameTooLong
    else if (t.node? (start ++ [n])).isSome then t.follow (start ++ [n]) names
    else .error .missing

/-- The directory that a path starts from. -/
def origin (t : Files) (p : Path) : Place := if p.isAbsolute then [] else t.cwd

/-- The place that a path leads to. -/
def locate (t : Files) (p : Path) : Except FileError Place :=
  if !p.isNameable then .error .unnameable
  else if mostPathBytes < p.str.utf8ByteSize then .error .nameTooLong
  else t.follow (t.origin p) p.parts

/-- The entry that a path leads to, and its place. -/
def find (t : Files) (p : Path) : Except FileError (Place × Node) := do
  let place ← t.locate p
  match t.node? place with
  | some n => return (place, n)
  | none => throw .missing

/-- Whether a path leads to an entry; it is not known if the path is too long. -/
def probe (t : Files) (p : Path) : Except FileError Bool :=
  match t.find p with
  | .ok _ => .ok true
  | .error .nameTooLong => .error .nameTooLong
  | .error _ => .ok false

/-- Whether a path leads to a directory. -/
def hasDirectory (t : Files) (p : Path) : Bool :=
  match t.find p with
  | .ok (_, .directory) => true
  | _ => false

/-- The bytes of a file. -/
def read (t : Files) (p : Path) : Except FileError ByteArray := do
  match (← t.find p).2 with
  | .file data => return data
  | .directory => throw .isDirectory

/-- The text of a file. -/
def readText (t : Files) (p : Path) : Except FileError Text :=
  (t.read p).map fun data => Text.unifyBreaks (Text.Utf8.decodeLossy data.toList)

/-- The size of a file in bytes; directories count as one block. -/
def size? (t : Files) (p : Path) : Option Nat :=
  match t.find p with
  | .ok (_, .file data) => some data.size
  | .ok (_, .directory) => some 4096
  | .error _ => none

/-- The last name of a place that lies right inside a directory. -/
def nameIn? (directory place : Place) : Option Text :=
  match directory.isPrefixOf? place with
  | some [n] => some n
  | _ => none

/-- The order of names: by code point. -/
def nameLe (a b : Text) : Bool := Text.str a ≤ Text.str b

/-- The entries right inside the directory at a place, in the order of their names. -/
def entriesAt (t : Files) (directory : Place) : List (Text × Node) :=
  (t.nodes.filterMap fun (place, n) => (nameIn? directory place).map (·, n)).mergeSort
    fun a b => nameLe a.1 b.1

/-- The entries right inside a directory, in the order of their names. -/
def list (t : Files) (p : Path) : Except FileError (List (Text × Node)) := do
  match (← t.find p) with
  | (place, .directory) => return t.entriesAt place
  | (_, .file _) => throw .notDirectory

/-- The tree without the entry at a place. -/
def remove (t : Files) (place : Place) : Files :=
  { t with nodes := t.nodes.filter fun e => e.1 ≠ place }

/-- The tree without a file. Directories and pinned entries cannot be removed. -/
def unlink (t : Files) (p : Path) : Except FileError Files := do
  match (← t.find p) with
  | (place, .file _) => if place ∈ t.pinned then throw .denied else return t.remove place
  | (_, .directory) => throw .isDirectory

/-- The tree with an entry at a place, and with the directories on the way to it. -/
def insert (t : Files) (place : Place) (n : Node) : Files :=
  let onTheWay := (List.range place.length).tail.map place.take
  let above := onTheWay.filter fun d => (t.node? d).isNone
  let t := t.remove place
  { t with nodes := t.nodes ++ above.map (·, .directory) ++ [(place, n)] }

/-- The place of a file to be written: the directory before the last name has to be there. -/
def target (t : Files) (p : Path) : Except FileError Place := do
  match t.find p with
  | .ok (place, .file _) => return place
  | .ok (_, .directory) => throw .isDirectory
  | .error .missing =>
    if p.name = Path.dotDot ∨ p.name = [] then throw .missing
    let (directory, n) ← t.find p.parent
    match n with
    | .directory => return directory ++ [p.name]
    | .file _ => throw .notDirectory
  | .error e => throw e

/-- The tree with a file of the given bytes. -/
def write (t : Files) (p : Path) (data : ByteArray) : Except FileError Files := do
  return t.insert (← t.target p) (.file data)

/-- The tree with an empty file. -/
def create (t : Files) (p : Path) : Except FileError Files := t.write p .empty

theorem node?_remove_self (t : Files) {place : Place} (h : place ≠ []) :
    (t.remove place).node? place = none := by
  simp only [node?, h, if_false, remove]
  induction t.nodes with
  | nil => rfl
  | cons e es ih =>
    obtain ⟨k, n⟩ := e
    by_cases hk : k = place
    · simpa [hk] using ih
    · have : (place == k) = false := beq_eq_false_iff_ne.2 (Ne.symm hk)
      simpa [List.lookup_cons, hk, this] using ih

theorem node?_remove_of_ne (t : Files) {place other : Place} (h : other ≠ place) :
    (t.remove place).node? other = t.node? other := by
  simp only [node?, remove]
  split
  · rfl
  · induction t.nodes with
    | nil => rfl
    | cons e es ih =>
      obtain ⟨k, n⟩ := e
      by_cases hk : k = place
      · have : (other == place) = false := beq_eq_false_iff_ne.2 h
        simpa [List.lookup_cons, hk, this] using ih
      · simpa [List.lookup_cons, hk] using by rw [← ih]; simp

theorem find_of_unlink {t u : Files} {p : Path} (h : t.unlink p = .ok u) :
    ∃ place data, t.find p = .ok (place, .file data) ∧ place ∉ t.pinned ∧
      u = t.remove place := by
  unfold unlink at h
  cases hf : t.find p with
  | error e => rw [hf] at h; cases h
  | ok r =>
    obtain ⟨place, n⟩ := r
    rw [hf] at h
    cases n with
    | directory => cases h
    | file data =>
      by_cases hp : place ∈ t.pinned
      · simp [bind, Except.bind, hp, throw, throwThe, MonadExceptOf.throw] at h
      · simp only [bind, Except.bind, hp, if_false, pure, Except.pure, Except.ok.injEq] at h
        exact ⟨place, data, rfl, hp, h.symm⟩

end Files

end Typeset
