/-
This file defines directories as maps from names to files and folders.
-/

import Graft.Entries
import Graft.File.Name
import Graft.Wording

namespace Graft

inductive Item where
  | file (content : ByteArray)
  | folder

instance : DecidableEq Item
  | .folder, .folder => isTrue rfl
  | .file first, .file second =>
      match ByteArray.instDecidableEq first second with
      | isTrue same => isTrue (same ▸ rfl)
      | isFalse different => isFalse fun same => different (Item.file.inj same)
  | .file _, .folder => isFalse nofun
  | .folder, .file _ => isFalse nofun

/-- The names of a directory are the full names of its files and of the folders they lie in. -/
structure Directory where
  items : List (String × Item)

namespace Directory

def empty : Directory := ⟨[]⟩

/-- The full name of a place below the directory or below the root. -/
def fullName (absolute : Bool) (parts : List String) : String :=
  (if absolute then "/" else "") ++ Text.join "/" parts

/-- Whether parts only lead up. -/
def isAbove (parts : List String) : Bool := parts.all (· == "..")

/-- The directory, the root and what lies above them are always folders. -/
def isFolder (directory : Directory) (absolute : Bool) (parts : List String) : Bool :=
  isAbove parts || Entries.find? (fullName absolute parts) directory.items == some .folder

/-- One step from a folder. A step up from the root stays there, and nothing is known of the
folders above the directory but that they are there. -/
def step (absolute : Bool) (place : List String) (part : String) : List String :=
  if part ≠ ".." then place ++ [part]
  else if isAbove place ∧ !absolute then place ++ [part]
  else place.dropLast

/-- The place that parts lead to from a folder. All places on the way must be folders. -/
def walk? (directory : Directory) (absolute : Bool) (place : List String) :
    List String → Option (List String)
  | [] => some place
  | part :: rest =>
      if directory.isFolder absolute place then
        directory.walk? absolute (step absolute place part) rest
      else none

/-- A name that ends in a slash or a single point must lead to a folder. -/
def endsInFolder (name : String) : Bool :=
  match name.toList.reverse with
  | '/' :: _ => true
  | '.' :: '/' :: _ => true
  | _ => false

/-- The parts of the place that a name leads to. -/
def resolve (directory : Directory) (name : String) : Except SystemFault (List String) :=
  if name.isEmpty then .error .notFound
  else if !File.isUsable name then .error .badName
  else match directory.walk? (File.isAbsolute name) [] (File.parts name) with
    | some parts => .ok parts
    | none => .error .notFound

/-- The item at a name. -/
def item (directory : Directory) (name : String) : Except SystemFault Item := do
  let parts ← directory.resolve name
  let item? := if isAbove parts then some .folder
    else Entries.find? (fullName (File.isAbsolute name) parts) directory.items
  match item? with
  | none => .error .notFound
  | some .folder => .ok .folder
  | some (.file content) => if endsInFolder name then .error .notADirectory else .ok (.file content)

def contains (directory : Directory) (name : String) : Bool := (directory.item name).isOk

def read (directory : Directory) (name : String) : Except SystemFault ByteArray := do
  match ← directory.item name with
  | .folder => .error .notAFile
  | .file content => .ok content

/-- The full name of a file that is to be written, which must not be a folder. -/
def place (directory : Directory) (name : String) : Except SystemFault String := do
  let parts ← directory.resolve name
  if endsInFolder name then .error .notADirectory
  else if (directory.item name).toOption = some .folder then .error .notAFile
  else .ok (fullName (File.isAbsolute name) parts)

/-- A write that goes through. What is left of one that is stopped is `leave`. -/
def write (directory : Directory) (name : String) (content : ByteArray) :
    Except SystemFault Directory := do
  return ⟨Entries.put (← directory.place name) (.file content) directory.items⟩

/-- The directory after a write that was stopped. A file that was opened has lost its old content and
holds what is left. -/
def leave (directory : Directory) (name : String) : Option ByteArray → Directory
  | none => directory
  | some left =>
      match directory.write name left with
      | .ok after => after
      | .error _ => directory

/-- The target gets the content of the source. -/
def copy (directory : Directory) (source target : String) : Except SystemFault Directory := do
  directory.write target (← directory.read source)

/-- The source becomes the target, whose old content is lost. -/
def rename (directory : Directory) (source target : String) : Except SystemFault Directory := do
  let content ← directory.read source
  let old ← directory.place source
  let new ← directory.place target
  if old = new then return directory
  return ⟨Entries.put new (.file content) (Entries.erase old directory.items)⟩

/-- The places that the parts of a name lead through, the last one included. -/
def placesFrom (absolute : Bool) (place : List String) : List String → List (List String)
  | [] => []
  | part :: rest =>
      let next := step absolute place part
      next :: placesFrom absolute next rest

/-- An item is added together with the folders on the way to it. -/
def add (directory : Directory) (name : String) (item : Item) : Directory :=
  let absolute := File.isAbsolute name
  let places := (placesFrom absolute [] (File.parts name)).filter fun place => !isAbove place
  let put (item : Item) (items : List (String × Item)) (place : List String) :=
    Entries.put (fullName absolute place) item items
  ⟨places.getLast?.toList.foldl (put item) (places.dropLast.foldl (put .folder) directory.items)⟩

def ofFiles (files : List (String × ByteArray)) : Directory :=
  files.foldl (fun directory file => directory.add file.1 (.file file.2)) empty

/-- The files with their full names and contents. -/
def files (directory : Directory) : List (String × ByteArray) :=
  directory.items.filterMap fun entry =>
    match entry.2 with
    | .file content => some (entry.1, content)
    | .folder => none

end Directory

end Graft
