import CommandSpec.Fault
import CommandSpec.Machine.Octets
import CommandSpec.Number
import CommandSpec.Path

/-!
# A tree of files

The file system is an array of nodes, and a node's index is its identity. A directory lists names
with the nodes they stand for and knows its parent. Nodes are never freed: a file that lost its name
can still be read by who has it open, and a directory that was removed can still be somebody's
current directory, although nothing can be found or made in it any more.
-/

namespace CommandSpec

/-- The identity of a node. -/
abbrev Inode := Nat

/-- The names in a directory. -/
structure Directory where
  parent : Inode
  entries : List (String × Inode) := []
  /-- Whether the directory still has a place in the tree. -/
  linked : Bool := true
  deriving Repr, Inhabited

/-- A file that is no storage. -/
inductive Device where
  /-- Always empty, and takes everything. -/
  | null
  /-- NULs without end; takes everything. -/
  | zero
  /-- NULs without end; takes nothing. -/
  | full
  /-- Bytes that cannot be foretold, without end; takes everything. -/
  | random
  /-- The terminal of a process. No process has one. -/
  | terminal
  /-- What a process has open under a descriptor. -/
  | descriptor (fd : Nat)
  deriving DecidableEq, Repr, Inhabited

/-- What a node is. -/
inductive Content where
  | file (bytes : ByteArray)
  | directory (d : Directory)
  /-- Another name for what a path leads to. -/
  | symbolic (target : String)
  /-- A pipe with a name. -/
  | fifo (pipe : Nat)
  /-- An executable utility. -/
  | program (name : String)
  | device (d : Device)
  deriving Inhabited

/-- A node with its permissions, the numbers of the user and the group that own it, and the times when its
content was last changed, when the node itself was, and when the content was last read. -/
structure Node where
  content : Content
  mode : Nat := 0o644
  user : Nat := 0
  group : Nat := 0
  modified : Nat := 0
  changed : Nat := 0
  accessed : Nat := 0
  deriving Inhabited

namespace Node

/-- Whether the node is a file that can be read as one. -/
def isFile (n : Node) : Bool :=
  match n.content with
  | .file _ => true
  | .program _ => true
  | _ => false

/-- Whether the node is a directory. -/
def isDirectory (n : Node) : Bool :=
  match n.content with
  | .directory _ => true
  | _ => false

/-- Whether the node is a symbolic link. -/
def isSymbolic (n : Node) : Bool :=
  match n.content with
  | .symbolic _ => true
  | _ => false

/-- The directory that the node is. -/
def directory? (n : Node) : Option Directory :=
  match n.content with
  | .directory d => some d
  | _ => none

/-- The bytes that the node stores. -/
def bytes (n : Node) : ByteArray :=
  match n.content with
  | .file bytes => bytes
  | _ => .empty

/-- Whether the node may be run, or searched if it is a directory. -/
def isExecutable (n : Node) : Bool :=
  n.mode &&& 0o111 ≠ 0

/-- The node after it was read at a time. Not every read is noted: only the first one after a change,
and one a day. -/
def noteRead (n : Node) (now : Nat) : Node :=
  if n.accessed ≤ n.modified || n.accessed ≤ n.changed || n.accessed + 86400000000 ≤ now then
    { n with accessed := now }
  else n

end Node

/-- All nodes; the first one is the root. -/
structure FileSystem where
  nodes : Array Node
  /-- The time, in microseconds. -/
  now : Nat := 0
  /-- The permissions that new nodes do not get. -/
  mask : Nat := 0o022
  deriving Inhabited

namespace FileSystem

/-- The node of the root. -/
def root : Inode := 0

/-- A file system that holds an empty root. -/
def empty : FileSystem :=
  { nodes := #[{ content := .directory { parent := root }, mode := 0o755 }] }

variable (fs : FileSystem)

/-- The node with an identity. -/
def node (i : Inode) : Node :=
  fs.nodes[i]?.getD { content := .device .null }

/-- The file system with a node changed. -/
def modify (i : Inode) (f : Node → Node) : FileSystem :=
  { fs with nodes := fs.nodes.modify i f }

/-- The file system with something but the content changed in a node. -/
def amend (i : Inode) (f : Node → Node) : FileSystem :=
  fs.modify i fun n => { f n with changed := fs.now }

/-- The file system with another content in a node. -/
def store (i : Inode) (content : Content) : FileSystem :=
  fs.amend i fun n => { n with content, modified := fs.now }

/-- The file system with a new node, and the identity of that. -/
def add (content : Content) (mode : Nat) : Inode × FileSystem :=
  let node : Node :=
    { content, mode := mode - (mode &&& fs.mask), modified := fs.now, changed := fs.now, accessed := fs.now }
  (fs.nodes.size, { fs with nodes := fs.nodes.push node })

/-- The longest name of a directory entry. -/
def maxName : Nat := 255

/-- The longest path, with the byte that closes it. -/
def maxPath : Nat := 4096

/-- How many symbolic links a path may lead over. -/
def maxLinks : Nat := 40

/-! ## Finding nodes -/

/-- The node where a path starts. -/
def startOf (here : Inode) (path : String) : Inode :=
  if path.toList.head? = some '/' then root else here

/-- The pieces of a path as strings. -/
def piecesOf (path : String) : List String :=
  (Path.pieces path.toList).map String.ofList

/-- The entry of a name in a directory; the name is no dot. -/
def entry (here : Inode) (name : String) : Except OsError Inode :=
  match (fs.node here).directory? with
  | none => .error .notDirectory
  | some d =>
    if name.length > maxName then .error .nameTooLong
    else (d.entries.lookup name).elim (.error .noEntry) .ok

/-- The node that pieces of a path lead to, from a node on, over at most so many symbolic links; a
link at the end is followed only on request. -/
def walk (links : Nat) (here : Inode) (follow : Bool) : List String → Except OsError Inode
  | [] => .ok here
  | piece :: rest =>
    match (fs.node here).directory? with
    | none => .error .notDirectory
    | some d =>
      if piece = "" || piece = "." then walk links here follow rest
      else if piece = ".." then walk links d.parent follow rest
      else
        match fs.entry here piece with
        | .error e => .error e
        | .ok i =>
          match (fs.node i).content with
          | .symbolic target =>
            if rest.isEmpty && !follow then .ok i
            else
              match links with
              | 0 => .error .tooManyLinks
              | links + 1 => walk links (startOf here target) follow (piecesOf target ++ rest)
          | _ => walk links i follow rest
termination_by pieces => (links, pieces.length)

/-- Refuse paths that no file can have. -/
def checkPath (path : String) : Except OsError Unit :=
  if path = "" then .error .noEntry
  else if path.length ≥ maxPath then .error .nameTooLong
  else .ok ()

/-- The node that a path names, seen from a directory. -/
def resolve (cwd : Inode) (path : String) : Except OsError Inode := do
  checkPath path
  fs.walk maxLinks (startOf cwd path) true (piecesOf path)

/-- The node that a path names, which may be a symbolic link. -/
def resolveLink (cwd : Inode) (path : String) : Except OsError Inode := do
  checkPath path
  fs.walk maxLinks (startOf cwd path) false (piecesOf path)

/-- The directory that is to hold the last name of a path, and that name. -/
def resolveParent (cwd : Inode) (path : String) : Except OsError (Inode × String) := do
  checkPath path
  match (piecesOf path).reverse.dropWhile (· = "") with
  | [] => .ok (startOf cwd path, ".")
  | name :: before =>
    let here ← fs.walk maxLinks (startOf cwd path) true before.reverse
    if (fs.node here).isDirectory then
      if name.length > maxName then .error .nameTooLong else .ok (here, name)
    else .error .notDirectory

/-- The name under which a directory is listed in its parent. -/
def nameOf? (i : Inode) : Option (Inode × String) := do
  let d ← (fs.node i).directory?
  guard d.linked
  let above ← (fs.node d.parent).directory?
  let (name, _) ← above.entries.find? fun e => e.2 = i
  return (d.parent, name)

/-- The names from the root to a directory, of which `below` are known; at most `fuel` steps up. -/
def namesTo : (fuel : Nat) → Inode → (below : List String) → Except OsError (List String)
  | 0, _, _ => .error .noEntry
  | fuel + 1, i, below =>
    if i = root then .ok below
    else
      match fs.nameOf? i with
      | some (parent, name) => namesTo fuel parent (name :: below)
      | none => .error .noEntry

/-- The absolute path of a directory. -/
def absolutePath (i : Inode) : Except OsError String := do
  let names ← fs.namesTo (fs.nodes.size + 1) i []
  return "/" ++ "/".intercalate names

/-! ## Changing the tree -/

/-- Change the entries of a directory. -/
def modifyEntries (i : Inode) (f : List (String × Inode) → List (String × Inode)) : FileSystem :=
  match (fs.node i).content with
  | .directory d => fs.store i (.directory { d with entries := f d.entries })
  | _ => fs

/-- Let a name in a directory stand for a node. -/
def link (dir : Inode) (name : String) (i : Inode) : FileSystem :=
  (fs.modifyEntries dir fun es => es.filter (·.1 != name) ++ [(name, i)]).amend i id

/-- Take a name out of a directory. -/
def unlink (dir : Inode) (name : String) : FileSystem :=
  fs.modifyEntries dir fun es => es.filter (·.1 != name)

/-- Whether new names can be made in a directory. -/
def isLinked (dir : Inode) : Bool :=
  dir = root || ((fs.node dir).directory?.map Directory.linked).getD false

/-- Whether a name is free to be made in a directory. -/
def checkFree (dir : Inode) (name : String) : Except OsError Unit :=
  if name = "." || name = ".." || (fs.entry dir name).toOption.isSome then .error .alreadyExists
  else if !fs.isLinked dir then .error .noEntry
  else .ok ()

/-- Make a new node under a path. -/
def create (cwd : Inode) (path : String) (mode : Nat) (make : Inode → Content) :
    Except OsError (Inode × FileSystem) := do
  let (dir, name) ← fs.resolveParent cwd path
  fs.checkFree dir name
  let (i, fs) := fs.add (make dir) mode
  return (i, fs.link dir name i)

/-- Make a directory under a path. It has the group of the one it is in if that one hands it on. -/
def makeDirectory (cwd : Inode) (path : String) (mode : Nat) : Except OsError FileSystem := do
  let (i, made) ← fs.create cwd path mode fun parent => .directory { parent }
  let above := ((made.node i).directory?.map Directory.parent).getD i
  return made.modify i fun n => { n with mode := n.mode ||| ((fs.node above).mode &&& 0o2000) }

/-- Refuse to make anything but a directory under a path with a slash at its end. -/
def checkPlain (cwd : Inode) (path : String) : Except OsError Unit := do
  if path.toList.getLast? = some '/' then
    let _ ← fs.resolveParent cwd path
    throw (if (fs.resolveLink cwd path).toOption.isSome then .alreadyExists else .noEntry)

/-- Make a symbolic link under a path. -/
def makeSymbolic (cwd : Inode) (path target : String) : Except OsError FileSystem := do
  if target = "" then throw .noEntry
  fs.checkPlain cwd path
  let (i, fs) ← fs.create cwd path 0o777 fun _ => .symbolic target
  return fs.modify i fun n => { n with mode := 0o777 }

/-- Give a node another name. -/
def makeLink (cwd : Inode) (i : Inode) (path : String) : Except OsError FileSystem := do
  if (fs.node i).isDirectory then throw .notPermitted
  fs.checkPlain cwd path
  let (dir, name) ← fs.resolveParent cwd path
  fs.checkFree dir name
  return fs.link dir name i

/-- The file under a path, made when it is not there yet; a symbolic link that leads nowhere is
followed over at most so many links to where the file is made. -/
def fileFor (links : Nat) (cwd : Inode) (path : String) : Except OsError (Inode × FileSystem) :=
  match fs.resolve cwd path with
  | .ok i => if (fs.node i).isDirectory then .error .isDirectory else .ok (i, fs)
  | .error .noEntry => do
    if path.toList.getLast? = some '/' then throw .isDirectory
    let (dir, name) ← fs.resolveParent cwd path
    match (fs.entry dir name).toOption.map fun i => (fs.node i).content with
    | some (.symbolic target) =>
      match links with
      | 0 => throw .tooManyLinks
      | links + 1 => fileFor links dir target
    | _ => fs.create cwd path 0o666 fun _ => .file .empty
  | .error e => .error e

/-- Take a file's name away. -/
def removeFile (cwd : Inode) (path : String) : Except OsError FileSystem := do
  let i ← fs.resolveLink cwd path
  let (dir, name) ← fs.resolveParent cwd path
  if (fs.node i).isDirectory then throw .isDirectory
  return fs.unlink dir name

/-- Mark a directory as having no place in the tree. -/
def orphan (i : Inode) : FileSystem :=
  match (fs.node i).content with
  | .directory d => fs.store i (.directory { d with entries := [], linked := false })
  | _ => fs

/-- Remove an empty directory. -/
def removeDirectory (cwd : Inode) (path : String) : Except OsError FileSystem := do
  let i ← fs.resolveLink cwd path
  let (dir, name) ← fs.resolveParent cwd path
  match (fs.node i).directory? with
  | none => throw .notDirectory
  | some d =>
    if name = "." then throw .invalid
    if (fs.entry dir name).toOption.any (· ≠ i) then throw .notDirectory
    if !d.entries.isEmpty || i = root || name = ".." then throw .notEmpty
    return (fs.unlink dir name).orphan i

/-- The directories at and below a node, at most `fuel` levels of them. -/
def directoriesBelow : (fuel : Nat) → Inode → List Inode
  | 0, _ => []
  | fuel + 1, i =>
    match (fs.node i).directory? with
    | none => []
    | some d => i :: d.entries.flatMap fun e => directoriesBelow fuel e.2

/-- Whether a directory lies at or below another. -/
def isBelow (i ancestor : Inode) : Bool :=
  (fs.directoriesBelow fs.nodes.size ancestor).contains i

/-- Move what one path names to another path. A file replaces a file, and a directory an empty
directory; two names of one file stay. -/
def rename (cwd : Inode) (source target : String) : Except OsError FileSystem := do
  let i ← fs.resolveLink cwd source
  let (sourceDir, sourceName) ← fs.resolveParent cwd source
  let (targetDir, targetName) ← fs.resolveParent cwd target
  if sourceName = "." || sourceName = ".." then throw .busy
  if (fs.entry sourceDir sourceName).toOption ≠ some i then throw .notDirectory
  let isDirectory := (fs.node i).isDirectory
  if isDirectory && fs.isBelow targetDir i then throw .invalid
  if !fs.isLinked targetDir then throw .noEntry
  match fs.entry targetDir targetName with
  | .error .noEntry =>
    if !isDirectory && target.toList.getLast? = some '/' then throw .notDirectory
  | .error e => throw e
  | .ok j =>
    if i = j then return fs
    match isDirectory, (fs.node j).directory? with
    | true, some d => if !d.entries.isEmpty then throw .notEmpty
    | true, none => throw .notDirectory
    | false, some _ => throw .isDirectory
    | false, none => pure ()
  let moved := (fs.unlink sourceDir sourceName).link targetDir targetName i
  match (moved.node i).content with
  | .directory d =>
    return moved.modify i fun n => { n with content := .directory { d with parent := targetDir } }
  | _ => return moved

/-- The names in a directory, in order. -/
def list (i : Inode) : List String :=
  (((fs.node i).directory?.map fun d => d.entries.map Prod.fst).getD []).mergeSort (· ≤ ·)

/-- How many names a node has; a directory is also named by itself and by the directories in it. -/
def linkCount (i : Inode) : Nat :=
  match (fs.node i).directory? with
  | some d => 2 + (d.entries.filter fun e => (fs.node e.2).isDirectory).length
  | none => sumOf (fs.nodes.toList.map fun n =>
      ((n.directory?.map Directory.entries).getD []).countP (·.2 = i))

/-! ## Making trees -/

/-- Make every directory that the pieces of a path name, and tell which is the last. -/
def makeDirectories : FileSystem → Inode → List String → FileSystem × Inode
  | fs, here, [] => (fs, here)
  | fs, here, piece :: rest =>
    match fs.walk maxLinks here true [piece] with
    | .ok i => makeDirectories fs i rest
    | .error _ =>
      let (i, grown) := fs.add (.directory { parent := here }) 0o777
      makeDirectories (grown.link here piece i) i rest

/-- Put a new node under a path, with the directories above it. -/
def put (cwd : Inode) (path : String) (content : Content) (mode : Nat) : FileSystem :=
  match (piecesOf path).reverse.dropWhile (· = "") with
  | [] => fs
  | name :: before =>
    let (grown, dir) := fs.makeDirectories (startOf cwd path) before.reverse
    let (i, grown) := grown.add content mode
    grown.link dir name i

/-- Put a directory under a path, with the directories above it. -/
def putDirectory (cwd : Inode) (path : String) : FileSystem × Inode :=
  fs.makeDirectories (startOf cwd path) (piecesOf path)

end FileSystem

end CommandSpec
