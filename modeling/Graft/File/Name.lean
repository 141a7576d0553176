/-
This file takes the names of files apart. A name joins its parts with slashes.
-/

import Graft.Text

namespace Graft.File

/-- The pieces of a name between its slashes. -/
def pieces (name : String) : List String := Text.splitOn '/' name

/-- An empty piece or a single point stands for no step. -/
def isIdle (piece : String) : Bool := piece.isEmpty || piece == "."

/-- The parts of a name are the pieces that stand for a step. -/
def parts (name : String) : List String := (pieces name).filter fun piece => !isIdle piece

def isAbsolute (name : String) : Bool := name.toList.head? == some '/'

/-- A name has this many bytes at most. -/
def nameLimit : Nat := 4095

/-- A part of a name has this many bytes at most. -/
def partLimit : Nat := 255

/-- Only a name within the limits and without a null character can stand for a file. -/
def isUsable (name : String) : Bool :=
  !name.toList.contains '\x00' && name.utf8ByteSize ≤ nameLimit &&
    (parts name).all fun part => part.utf8ByteSize ≤ partLimit

/-- The last part, unless it goes up. -/
def last? (name : String) : Option String :=
  (parts name).getLast?.filter (· != "..")

/-- The pieces without the idle ones at the end. -/
def withoutIdleEnd (pieces : List String) : List String := (pieces.reverse.dropWhile isIdle).reverse

/-- The pieces before the last part. -/
def leading (name : String) : List String := (withoutIdleEnd (pieces name)).dropLast

/-- The pieces of the folder that the last part lies in. The first piece tells where the name starts
and stays. -/
def folder (name : String) : List String :=
  match withoutIdleEnd (leading name) with
  | [] => (leading name).take 1
  | pieces => pieces

/-- The text before and after the last point. A point at the start does not count. -/
def cutSuffix? (last : String) : Option (String × String) :=
  match Text.cut? '.' last.toList.reverse with
  | some (_, []) => none
  | some (suffix, stem) => some (String.ofList stem.reverse, String.ofList suffix.reverse)
  | none => none

def suffix? (name : String) : Option String :=
  ((last? name).bind cutSuffix?).map Prod.snd

/-- The name without its suffix. -/
def stem (last : String) : String := ((cutSuffix? last).map Prod.fst).getD last

/-- Whether a file with this name is compressed when it is read. -/
def readsCompressed (name : String) : Bool := suffix? name == some "gz"

/-- Whether a file with this name is compressed when it is written. -/
def writesCompressed (name : String) : Bool := ".gz".toList.isSuffixOf name.toList

/-- The name of the copy that is made of a file. -/
def backup? (name : String) : Option String :=
  (last? name).map fun last => Text.join "/" (folder name ++ [last ++ ".bak"])

/-- The name without its suffix, which is cut off at the end of the name. The point before it
stays. -/
def withoutSuffix (name : String) : String :=
  String.ofList (name.toList.take (name.length - ((suffix? name).getD "").length))

/-- A name with the suffix `tmp`. A name without a last part gets none. -/
def temporaryOf (name : String) : String :=
  match last? name with
  | some last => Text.join "/" (leading name ++ [stem last ++ ".tmp"])
  | none => name

/-- The name of the file that is written first and renamed then. A name such as `..gz` leads up once
its suffix is cut off. -/
def temporary (name : String) : String := temporaryOf (withoutSuffix name)

end Graft.File
