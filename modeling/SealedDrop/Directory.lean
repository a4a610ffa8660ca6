/-
  SealedDrop.Directory
  ────────────────────
  **A DIRECTORY IN ITS TREE.**

  Directories and files form a tree.  A path is followed from the directory at
  hand, or from the top if it has a root: a name leads down, two dots lead up,
  and each step has to end in a directory before the next one is taken.  So a
  path leads to a file, to a directory, to a name that is still free in a
  directory, or nowhere.  A name that is too long is not noticed below a file,
  nor below a directory that is not there; a path that is too long as a whole
  is not followed at all.  There are no links, and everything may be read and
  written.

      isDirectory — whether a place is that of a directory
      follow      — where names lead from a place
      locate      — where a path leads

  On disk a name is octets.  Those that are no UTF-8 show as surrogates, one
  each, so surrogates in a row may well stand for the octets of another name,
  and the directory shows that one.
-/
import SealedDrop.Text.Printable
import SealedDrop.Text.Utf8

namespace SealedDrop

/-! ## §1. Paths -/

/-- A path. -/
structure Path where
  /-- What stands before the first name: slashes or nothing. -/
  root : Text
  /-- The names from there on. -/
  names : List Text
  deriving DecidableEq, Repr

namespace Path

/-- The path that a text stands for: empty names and lone dots count for nothing. -/
def ofText (t : Text) : Path :=
  let root : Text :=
    if Text.startsWith t "//" && !Text.startsWith t "///" then "//"
    else if Text.startsWith t "/" then "/" else []
  ⟨root, (Text.splitOn '/' t).filter fun n => !n.isEmpty && n ≠ "."⟩

/-- A path as text. -/
def text (p : Path) : Text :=
  if p.root.isEmpty && p.names.isEmpty then "." else p.root ++ Text.joinWith "/" p.names

/-- The name of the directory above. -/
def upwards : Text := ".."

/-- Whether a surrogate stands for an octet that is no UTF-8, as such octets show in names. -/
def isStrayOctet (c : CodePoint) : Bool := 0xDC80 ≤ c.val && c.val ≤ 0xDCFF

/-- The octets of a text on disk. -/
def onDisk (t : Text) : Bytes :=
  t.flatMap fun c => if isStrayOctet c then [UInt8.ofNat (c.val - 0xDC00)] else Utf8.encodePoint c

/-- The text that some octets on disk show as. -/
def shown (octets : Bytes) : Text :=
  go octets 0
where
  /-- `skip` octets still belong to the code point shown last. -/
  go : Bytes → Nat → Text
    | [], _ => []
    | _ :: r, skip + 1 => go r skip
    | b :: r, 0 =>
      match Utf8.head false b r with
      | .point c size => c :: go r (size - 1)
      | .fault _ _ => CodePoint.ofNat (0xDC00 + b.toNat) :: go r 0

/-- The name as which a directory shows a file of this name. -/
def nameOnDisk (name : Text) : Text := shown (onDisk name)

/-- How many octets a text takes on disk. -/
def octetCount (t : Text) : Nat := (onDisk t).length

/-- The most octets of a name. -/
def maxName : Nat := 255

/-- The most octets of a path. -/
def maxPath : Nat := 4095

/-- Whether a name is longer than a name can be. -/
def isOverlong (name : Text) : Bool := maxName < octetCount name

end Path

/-! ## §2. Files and directories -/

/-- Who may do what with a file, as a number of three octal digits. -/
abbrev Mode := Nat

/-- Reading and writing for the owner alone. -/
def Mode.ownerOnly : Mode := 0o600

/-- Reading and writing for the owner, reading for everybody: the mode of a file that was just
created. -/
def Mode.readable : Mode := 0o644

/-- A place in a tree: the names, as they show on disk, that lead to it from the top. -/
abbrev Location := List Text

/-- A file. -/
structure File where
  /-- Where it lies. -/
  location : Location
  /-- What it holds. -/
  content : Bytes
  /-- Who may do what with it. -/
  mode : Mode
  deriving DecidableEq, Repr

/-- The directory in which a file lies. -/
def File.folder (f : File) : Location := f.location.dropLast

/-- The name of a file. -/
def File.name (f : File) : Text := f.location.getLast?.getD []

/-- A directory at hand, and the tree that it is part of. -/
structure Directory where
  /-- Where it is. -/
  here : Location
  /-- Other directories of the tree. -/
  others : List Location
  /-- The files of the tree. -/
  files : List File
  deriving DecidableEq, Repr

namespace Directory

/-- Places that are known to be directories. -/
def known (d : Directory) : List Location := d.here :: (d.others ++ d.files.map File.folder)

/-- Whether a place is that of a directory: one that is known, or one above it. -/
def isDirectory (d : Directory) (l : Location) : Bool := d.known.any fun k => l.isPrefixOf k

/-- The file at a place. -/
def find? (d : Directory) (l : Location) : Option File := d.files.find? fun f => f.location = l

/-- The tree with one more file. -/
def create (d : Directory) (f : File) : Directory := { d with files := d.files ++ [f] }

/-- The tree with the file at a place changed. -/
def change (d : Directory) (l : Location) (g : File → File) : Directory :=
  { d with files := d.files.map fun f => if f.location = l then g f else f }

end Directory

/-! ## §3. Following a path -/

/-- Where a path leads. -/
inductive Place where
  /-- To a file. -/
  | file (f : File)
  /-- To a directory. -/
  | directory
  /-- To a name that is still free in a directory. -/
  | free (l : Location)
  /-- Below a file. -/
  | belowFile
  /-- Below a directory that is not there. -/
  | nowhere
  /-- Through a name that no directory can hold. -/
  | overlong
  deriving DecidableEq, Repr

/-- Where names lead from the place of a directory. -/
def Directory.follow (d : Directory) (l : Location) : List Text → Place
  | [] => .directory
  | n :: r =>
    if n = Path.upwards then d.follow l.dropLast r
    else if Path.isOverlong n then .overlong
    else
      let below := l ++ [Path.nameOnDisk n]
      if d.isDirectory below then d.follow below r
      else
        match d.find? below, r with
        | some f, [] => .file f
        | some _, _ :: _ => .belowFile
        | none, [] => .free below
        | none, _ :: _ => .nowhere

/-- Where a path leads from a directory. -/
def Directory.locate (d : Directory) (p : Path) : Place :=
  if Path.maxPath < Path.octetCount p.text then .overlong
  else d.follow (if p.root.isEmpty then d.here else []) p.names

/-- Why a file cannot be read or written. -/
inductive FileFault where
  /-- The path leads to a directory. -/
  | isDirectory (path : Text)
  /-- The path leads below a file. -/
  | notDirectory (path : Text)
  /-- The path leads nowhere. -/
  | missing (path : Text)
  /-- The path, or a name on it, is too long. -/
  | overlong (path : Text)
  /-- The path holds a null. -/
  | null
  /-- The path has no form on disk. -/
  | unencodable (fault : Unencodable)
  deriving DecidableEq, Repr

/-- The wording of a fault. -/
def FileFault.message : FileFault → Text
  | .isDirectory p => "[Errno 21] Is a directory: " ++ Text.quoted p
  | .notDirectory p => "[Errno 20] Not a directory: " ++ Text.quoted p
  | .missing p => "[Errno 2] No such file or directory: " ++ Text.quoted p
  | .overlong p => "[Errno 36] File name too long: " ++ Text.quoted p
  | .null => "embedded null byte"
  | .unencodable e => e.message

namespace Path

/-- What rules a path out whatever the directory holds. -/
def flaw? (p : Path) : Option FileFault :=
  match Utf8.firstSurrogatesBut isStrayOctet p.text with
  | some e => some (.unencodable e)
  | none => if p.text.contains 0 then some .null else none

end Path

/-- The file that a path leads to. -/
def Directory.read? (d : Directory) (p : Path) : Except FileFault File :=
  match p.flaw? with
  | some e => .error e
  | none =>
    match d.locate p with
    | .file f => .ok f
    | .directory => .error (.isDirectory p.text)
    | .belowFile => .error (.notDirectory p.text)
    | .free _ | .nowhere => .error (.missing p.text)
    | .overlong => .error (.overlong p.text)

end SealedDrop
