/-!
# Files

A store is a tree of directories, which stay as they are, and files, which can be read, created
and replaced whole. A file is named by a path of parts with slashes between them, taken from the
root of the store; `.` and an empty part stay where they are, and `..` goes up. Every refusal has
its reason.
-/

namespace BoolCalc

/-- Why a file cannot be read or written. -/
inductive FileError where
  /-- The name holds the character zero. -/
  | zeroByte
  /-- There is no such file or directory. -/
  | missing
  /-- A file stands where a directory is needed. -/
  | notDirectory
  /-- A directory stands where a file is needed. -/
  | isDirectory
  /-- The name, or a part of it, is too long. -/
  | nameTooLong
  /-- The content is no text. -/
  | notText
  /-- Any other reason that a system gives. -/
  | other (text : String)
deriving DecidableEq, Repr

/-- The wording of a refusal. -/
def FileError.message : FileError → String
  | .zeroByte => "file name contained an unexpected NUL byte"
  | .missing => "No such file or directory (os error 2)"
  | .notDirectory => "Not a directory (os error 20)"
  | .isDirectory => "Is a directory (os error 21)"
  | .nameTooLong => "File name too long (os error 36)"
  | .notText => "stream did not contain valid UTF-8"
  | .other text => text

/-- A path from the root of a store. -/
abbrev Path := List (List Char)

/-- Directories and files. The root is a directory without being listed. -/
structure Store where
  directories : List Path
  files : List (Path × ByteArray)

namespace Store

/-- The store without files. -/
def empty : Store := ⟨[], []⟩

/-- Whether a path leads to a directory. -/
def isDirectory (st : Store) (p : Path) : Bool := p.isEmpty || st.directories.contains p

/-- The content of the file at a path. -/
def content? (st : Store) (p : Path) : Option ByteArray := st.files.lookup p

/-- The store with a file at a path. -/
def put (st : Store) (p : Path) (content : ByteArray) : Store :=
  { st with files := (p, content) :: st.files.filter (·.1 != p) }

/-- The parts of a name, empty ones included. -/
def split : List Char → Path
  | [] => [[]]
  | c :: cs =>
    if c = '/' then [] :: split cs
    else
      match split cs with
      | [] => [[c]]
      | p :: ps => (c :: p) :: ps

/-- Where a name leads: a directory, or an entry of one that need not exist. -/
inductive Place where
  | directory (path : Path)
  /-- `slashed` says that a slash follows the last part. -/
  | entry (path : Path) (slashed : Bool)

/-- The number of bytes of a text. -/
def byteLength (cs : List Char) : Nat := cs.foldr (fun c n => c.utf8Size + n) 0

/-- The most bytes that a part of a name may have. -/
def maxPart : Nat := 255

/-- The most bytes that a name may have. -/
def maxName : Nat := 4095

/-- Where the parts of a name lead from the directory `here`. -/
def walk (st : Store) (slashed : Bool) (here : Path) : Path → Except FileError Place
  | [] => .ok (.directory here)
  | part :: rest =>
    if part = ['.'] then walk st slashed here rest
    else if part = ['.', '.'] then walk st slashed here.dropLast rest
    else
      let next := here ++ [part]
      if rest.isEmpty then .ok (.entry next slashed)
      else if maxPart < byteLength part then .error .nameTooLong
      else if st.isDirectory next then walk st slashed next rest
      else if (st.content? next).isSome then .error .notDirectory
      else .error .missing

/-- Where a name leads. -/
def locate (st : Store) (name : String) : Except FileError Place :=
  let cs := name.toList
  if cs.contains '\x00' then .error .zeroByte
  else if cs.isEmpty then .error .missing
  else if maxName < byteLength cs then .error .nameTooLong
  else walk st (cs.getLast? == some '/') [] ((split cs).filter (!·.isEmpty))

/-- Whether the last part of a path is too long to look up. -/
def tooLong (p : Path) : Bool :=
  match p.getLast? with
  | some part => maxPart < byteLength part
  | none => false

/-- The content of the file with a name. -/
def read (st : Store) (name : String) : Except FileError ByteArray := do
  match ← st.locate name with
  | .directory _ => .error .isDirectory
  | .entry p slashed =>
    if tooLong p then .error .nameTooLong
    else if st.isDirectory p then .error .isDirectory
    else
      match st.content? p with
      | none => .error .missing
      | some content => if slashed then .error .notDirectory else .ok content

/-- The path at which a file with a name is created or replaced. -/
def target (st : Store) (name : String) : Except FileError Path := do
  match ← st.locate name with
  | .directory _ => .error .isDirectory
  | .entry p slashed =>
    if slashed then .error .isDirectory
    else if tooLong p then .error .nameTooLong
    else if st.isDirectory p then .error .isDirectory
    else .ok p

/-- The store after writing a file. -/
def write (st : Store) (name : String) (content : ByteArray) : Except FileError Store :=
  (st.target name).map fun p => st.put p content

/-- Whether a name leads to something. -/
def hasName (st : Store) (name : String) : Bool :=
  match st.locate name with
  | .error _ => false
  | .ok (.directory _) => true
  | .ok (.entry p slashed) =>
    !tooLong p && (st.isDirectory p || (!slashed && (st.content? p).isSome))

/-- The store with a file at a path and the directories that lead to it. -/
def plant (st : Store) (p : Path) (content : ByteArray) : Store :=
  let parents := (List.range p.length).map p.take
  { (st.put p content) with directories := st.directories ++ parents.filter (!·.isEmpty) }

theorem lookup_filter_ne {α β : Type} [BEq α] [LawfulBEq α] {p q : α} (h : q ≠ p)
    (l : List (α × β)) : (l.filter (·.1 != p)).lookup q = l.lookup q := by
  induction l with
  | nil => rfl
  | cons e l ih =>
    obtain ⟨a, b⟩ := e
    by_cases he : a = p
    · subst he
      have hq : (q == a) = false := by simpa using h
      rw [List.lookup_cons, hq, ← ih]
      simp
    · have hf : ((a, b) :: l).filter (·.1 != p) = (a, b) :: l.filter (·.1 != p) := by simp [he]
      rw [hf, List.lookup_cons, List.lookup_cons, ih]

theorem content?_put (st : Store) (p : Path) (content : ByteArray) :
    (st.put p content).content? p = some content := by
  simp [content?, put]

theorem content?_put_of_ne (st : Store) {p q : Path} (h : q ≠ p) (content : ByteArray) :
    (st.put p content).content? q = st.content? q := by
  have hq : (q == p) = false := by simpa using h
  rw [content?, content?, put, List.lookup_cons, hq]
  exact lookup_filter_ne h st.files

end Store

end BoolCalc
