import CommandSpec.Utility.Location
import CommandSpec.Utility.Target

/-!
# When a source is its own destination

A file must not be moved or copied onto itself, also not under another name or over a symbolic link,
because it would be lost. Where the destination is put aside or taken away first, more is allowed.
-/

namespace CommandSpec.Utility

/-- What comes of comparing a source with what is at its destination. -/
inductive Sameness where
  /-- They differ enough to go on. -/
  | distinct
  /-- They are the same file. -/
  | same
  /-- There is nothing left to do. -/
  | settled
  deriving DecidableEq, Repr, Inhabited

/-- What a program is about to do with a source and its destination. -/
structure Approach where
  isMove : Bool := false
  /-- Whether the source is what a symbolic link leads to. -/
  follows : Bool := false
  /-- Whether hard links are made. -/
  linksHard : Bool := false
  /-- Whether symbolic links are made. -/
  linksSymbolic : Bool := false
  /-- Whether the destination is taken away first. -/
  clears : Bool := false
  /-- Whether the destination is put aside first. -/
  putsAside : Bool := false
  deriving Inhabited

/-- A source with its destination, as they stand in the tree. -/
structure Facing where
  files : FileSystem
  cwd : Inode
  source : String
  target : String

namespace Facing

/-- The node that the source names, perhaps a symbolic link. -/
def sourceLink (f : Facing) : Option Inode :=
  (f.files.resolveLink f.cwd f.source).toOption

/-- The node that the destination names, perhaps a symbolic link. -/
def targetLink (f : Facing) : Option Inode :=
  (f.files.resolveLink f.cwd f.target).toOption

/-- Whether both are one name in one directory. -/
def isOneName (f : Facing) : Bool :=
  isSameName f.files f.cwd f.source f.target

/-- Whether both lead to one node. -/
def leadsToOne (f : Facing) : Bool :=
  match (f.files.resolve f.cwd f.source).toOption, (f.files.resolve f.cwd f.target).toOption with
  | some i, some j => i = j
  | _, _ => false

/-- Whether a node is a symbolic link. -/
def isLink (f : Facing) (i : Option Inode) : Bool :=
  i.any fun i => (f.files.node i).isSymbolic

/-- Whether the destination has other names. -/
def hasOtherNames (f : Facing) : Bool :=
  f.targetLink.any fun i => f.files.linkCount i > 1

/-- Whether the source, with its links followed, and the destination are one name in one directory. -/
def comesFromTarget (f : Facing) : Bool :=
  match canonical f.files f.cwd .all true f.source with
  | .ok names => isSameName f.files f.cwd (absolute names) f.target
  | .error _ => false

/-- Whether a source may replace what is at its destination, where the source or the destination is
no symbolic link or links are followed. -/
def compareFiles (f : Facing) (p : Approach) : Sameness :=
  let linked := f.sourceLink = f.targetLink
  let sourceIsLink := f.isLink f.sourceLink
  let targetIsLink := f.isLink f.targetLink
  let orSame (isDistinct : Bool) : Sameness := if isDistinct then .distinct else .same
  if p.follows && sourceIsLink && targetIsLink && p.clears then .distinct
  else if p.putsAside then
    if linked then orSame (!f.isOneName)
    else orSame (p.isMove || !p.follows || !sourceIsLink || targetIsLink)
  else if (p.isMove || p.clears) && targetIsLink then .distinct
  else if (p.isMove || p.clears) && linked && f.hasOtherNames && !f.isOneName then orSame (!p.isMove)
  else if !sourceIsLink && !targetIsLink && !linked then .distinct
  else if !sourceIsLink && !targetIsLink && p.linksHard then .settled
  else if p.isMove && sourceIsLink && f.hasOtherNames then orSame (!f.comesFromTarget)
  else if p.linksSymbolic && targetIsLink then .distinct
  else if p.follows then .same
  else if !f.leadsToOne then .distinct
  else if p.linksHard then if targetIsLink then .distinct else .settled
  else .same

/-- Whether a source may replace what is at its destination. -/
def compare (f : Facing) (p : Approach) : Sameness :=
  let linked := f.sourceLink = f.targetLink
  let isOne := if p.follows then f.leadsToOne else linked
  if isOne && p.linksHard then .settled
  else if p.follows then if isOne then f.compareFiles p else .distinct
  else if f.isLink f.sourceLink && f.isLink f.targetLink then
    if f.isOneName then .same
    else if p.putsAside || !linked then .distinct
    else if p.isMove then .same
    else .settled
  else f.compareFiles p

end Facing

end CommandSpec.Utility
