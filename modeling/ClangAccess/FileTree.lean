import ClangAccess.FileView

namespace ClangAccess

/-- What a file holds: some bytes, a shared library, or source code together with what libclang makes of it. -/
inductive Content where
  | bytes (content : Bytes)
  | library (missing : List String) (givesNoIndex : Bool)
  | source (reply : ForeignReply)
  deriving Repr

inductive TreeNode where
  | directory
  | link (target : Path)
  | file (number : Nat) (executable : Bool) (content : Content)
  deriving Repr

/-- Something to be made at a path. -/
inductive Item where
  | directory
  | link (target : Path)
  | file (executable : Bool) (content : Content)
  deriving Repr

/-- The names from the root down to a place, without links and dots. -/
abbrev Route := List Bytes

/-- Why a path leads nowhere. -/
inductive FileError where
  | noEntry
  | notDirectory
  | tooManyLinks
  | nameTooLong
  | permissionDenied
  | notExecutable
  deriving DecidableEq, Repr

namespace FileError

def text : FileError → String
  | .noEntry => "No such file or directory"
  | .notDirectory => "Not a directory"
  | .tooManyLinks => "Too many levels of symbolic links"
  | .nameTooLong => "File name too long"
  | .permissionDenied => "Permission denied"
  | .notExecutable => "Exec format error"

def code : FileError → Nat
  | .noEntry => 2
  | .notDirectory => 20
  | .tooManyLinks => 40
  | .nameTooLong => 36
  | .permissionDenied => 13
  | .notExecutable => 8

def message (e : FileError) : String := s!"{e.text} (os error {e.code})"

end FileError

/-- Files, directories and links. A file keeps its number under all names and never passes it on. -/
structure FileTree where
  nodes : List (Route × TreeNode) := []
  files : Nat := 0

namespace FileTree

/-- The root is always a directory. -/
def node? (t : FileTree) : Route → Option TreeNode
  | [] => some .directory
  | route => t.nodes.lookup route

/-- How far some names lead from a directory without following a link. -/
inductive Reach where
  | place (route : Route)
  /-- The names led to a link in the directory `base`; `rest` is still to go. -/
  | link (base : Route) (target : Path) (rest : List Bytes)
  | nowhere (e : FileError)

def nameLimit : Nat := 255
def pathLimit : Nat := 4095
def linkLimit : Nat := 40

def above : Bytes := [Path.dot, Path.dot]

def reach (t : FileTree) (base : Route) : List Bytes → Reach
  | [] => .place base
  | name :: rest =>
    if name = [] || name = Path.here then t.reach base rest
    else if name = above then t.reach base.dropLast rest
    else if nameLimit < name.length then .nowhere .nameTooLong
    else
      match t.node? (base ++ [name]) with
      | none => .nowhere .noEntry
      | some .directory => t.reach (base ++ [name]) rest
      | some (.link target) => .link base target rest
      | some (.file ..) => if rest.isEmpty then .place (base ++ [name]) else .nowhere .notDirectory

/-- The directory in which a path begins, seen from the directory `base`. -/
def origin (base : Route) (p : Path) : Route := if p.isAbsolute then [] else base

/-- Where some names lead if up to `links` links are followed. -/
def walk (t : FileTree) : (links : Nat) → Route → List Bytes → Except FileError Route
  | links, base, names =>
    match t.reach base names with
    | .place route => .ok route
    | .nowhere e => .error e
    | .link base target rest =>
      match links with
      | 0 => .error .tooManyLinks
      | links + 1 => t.walk links (origin base target) (Path.segments target.bytes ++ rest)

/-- Where a path leads from the working directory. No name holds a zero byte. -/
def resolve (t : FileTree) (workingDir : Route) (p : Path) : Except FileError Route :=
  if p.isEmpty || p.bytes.contains 0 then .error .noEntry
  else if pathLimit < p.bytes.length then .error .nameTooLong
  else t.walk linkLimit (origin workingDir p) (Path.segments p.bytes)

/-- What a path leads to. -/
def follow (t : FileTree) (workingDir : Route) (p : Path) : Except FileError TreeNode := do
  let route ← t.resolve workingDir p
  match t.node? route with
  | some node => return node
  | none => throw .noEntry

/-- The absolute path of a place. -/
def routePath : Route → Path
  | [] => ⟨[Path.slash]⟩
  | names => ⟨names.flatMap fun name => Path.slash :: name⟩

def canonical? (t : FileTree) (workingDir : Route) (p : Path) : Option Path :=
  match t.resolve workingDir p with
  | .ok route => some (routePath route)
  | .error _ => none

def isFile (t : FileTree) (workingDir : Route) (p : Path) : Bool :=
  match t.follow workingDir p with
  | .ok (.file ..) => true
  | _ => false

theorem isFile_nulFree (t : FileTree) (workingDir : Route) (p : Path) (isFile : t.isFile workingDir p = true) :
    p.bytes.contains 0 = false := by
  cases nul : p.bytes.contains 0 with
  | false => rfl
  | true =>
    have lost : t.follow workingDir p = .error .noEntry := by
      simp only [follow, resolve, nul, Bool.or_true, if_true]
      rfl
    simp [FileTree.isFile, lost] at isFile

/-- Go down some names, making the directories that are not there. -/
def makeDirectories (t : FileTree) (base : Route) : List Bytes → FileTree × Route
  | [] => (t, base)
  | name :: rest =>
    match t.walk linkLimit base [name] with
    | .ok route => t.makeDirectories route rest
    | .error _ =>
      let made := base ++ [name]
      makeDirectories { t with nodes := t.nodes ++ [(made, .directory)] } made rest

/-- A place and all below it are gone. -/
def prune (t : FileTree) (route : Route) : FileTree :=
  { t with nodes := t.nodes.filter fun (place, _) => !route.isPrefixOf place }

/-- Put something new at a path, in place of what was there, and make the directories that lead to it. A
directory that is there already stays as it is. -/
def put (t : FileTree) (workingDir : Route) (p : Path) (node : TreeNode) : FileTree :=
  match p.names.getLast? with
  | none => t
  | some last =>
    let (t, base) := t.makeDirectories (origin workingDir p) p.names.dropLast
    let route := base ++ [last]
    match node, t.node? route with
    | .directory, some .directory => t
    | node, _ =>
      let t := t.prune route
      { t with nodes := t.nodes ++ [(route, node)] }

/-- Make what an item says. A file gets a number of its own, also one that takes the place of another. -/
def make (t : FileTree) (workingDir : Route) (p : Path) : Item → FileTree
  | .directory => t.put workingDir p .directory
  | .link target => t.put workingDir p (.link target)
  | .file executable content =>
    put { t with files := t.files + 1 } workingDir p (.file t.files executable content)

/-- The tree with nothing but the way to a directory. -/
def onlyWay (route : Route) : FileTree := (makeDirectories {} [] route).1

/-- Take away what is at a path; a link goes, not what it leads to. -/
def remove (t : FileTree) (workingDir : Route) (p : Path) : FileTree :=
  match p.names.getLast? with
  | none => t
  | some last =>
    match t.walk linkLimit (origin workingDir p) p.names.dropLast with
    | .ok base => t.prune (base ++ [last])
    | .error _ => t

/-- How many bytes a shared library has at least. -/
def libraryHeaderSize : Nat := 64

/-- The name of a kind of node in the libraries of these files, null for a kind without one. -/
def kindName (kind : Int) : ForeignText :=
  (kinds.lookup kind).map Bytes.ofText
where
  kinds : List (Int × String) :=
    [(1, "UnexposedDecl"), (2, "StructDecl"), (3, "UnionDecl"), (4, "ClassDecl"), (5, "EnumDecl"),
     (6, "FieldDecl"), (7, "EnumConstantDecl"), (8, "FunctionDecl"), (9, "VarDecl"), (10, "ParmDecl"),
     (20, "TypedefDecl"), (21, "CXXMethod"), (22, "Namespace"), (24, "CXXConstructor"),
     (25, "CXXDestructor"), (70, "InvalidFile"), (350, "TranslationUnit"), (501, "macro definition")]

/-- The shared library in a file, or what a loader says of the file. -/
def library (t : FileTree) (workingDir : Route) (p : Path) : Except String SharedLibrary :=
  let refused (reason : String) : Except String SharedLibrary := .error s!"{p.display}: {reason}"
  match t.follow workingDir p with
  | .error e => refused s!"cannot open shared object file: {e.text}"
  | .ok (.file number _ (.library missing givesNoIndex)) => .ok ⟨number, missing, givesNoIndex, kindName⟩
  | .ok (.file _ _ (.bytes content)) =>
    refused (if content.length < libraryHeaderSize then "file too short" else "invalid ELF header")
  | .ok (.file _ _ (.source _)) => refused "invalid ELF header"
  | .ok _ => refused "cannot read file data: Is a directory"

/-- What libclang makes of a file: it cannot open one that is not there and cannot read one that is no
source code. -/
def reply (t : FileTree) (workingDir : Route) (p : Path) : ForeignReply :=
  match t.follow workingDir p with
  | .ok (.file _ _ (.source reply)) => reply
  | .ok _ => ⟨4, none⟩
  | .error _ => ⟨3, none⟩

/-- What a process in a working directory sees of the tree. -/
def view (t : FileTree) (workingDir : Route) : FileView where
  isFile := t.isFile workingDir
  canonical? := t.canonical? workingDir
  library := t.library workingDir
  missingText path name := s!"{path.display}: undefined symbol: {name}"
  reply := t.reply workingDir
  nulFree := t.isFile_nulFree workingDir

end FileTree

end ClangAccess
