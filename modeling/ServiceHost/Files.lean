/-
  ServiceHost.Files — the files the host reads and makes: contents with a modification
  time, directories, and the errors of asking for what is not there.
-/

import ServiceHost.Text.Blank
import ServiceHost.Text.Octets

namespace ServiceHost

/-- Why the system refused a file or a socket. -/
inductive IoError where
  | notFound
  | exists
  | notADirectory
  | isADirectory
  | notUtf8
  | addressInUse
  | addressNotAvailable
  | socketAddress
  | portValue
  | hostUnknown
  deriving DecidableEq, Repr

def IoError.message : IoError → String
  | notFound => "No such file or directory (os error 2)"
  | «exists» => "File exists (os error 17)"
  | notADirectory => "Not a directory (os error 20)"
  | isADirectory => "Is a directory (os error 21)"
  | notUtf8 => "stream did not contain valid UTF-8"
  | addressInUse => "Address already in use (os error 98)"
  | addressNotAvailable => "Cannot assign requested address (os error 99)"
  | socketAddress => "invalid socket address"
  | portValue => "invalid port value"
  | hostUnknown => "failed to lookup address information: Name or service not known"

structure StoredFile where
  content : Text.Octets
  modified : Nat
  deriving DecidableEq, Repr

/-- What tells one writing of a file from another: modification time and length. -/
structure Stamp where
  modified : Nat
  length : Nat
  deriving DecidableEq, Repr

def StoredFile.stamp (f : StoredFile) : Stamp := ⟨f.modified, f.content.length⟩

/-- Files by path, and the directories that hold them. -/
structure Files where
  stored : List (String × StoredFile) := []
  directories : List String := []
  deriving Repr

namespace Files

def find? (fs : Files) (path : String) : Option StoredFile := (fs.stored.find? (·.1 = path)).map (·.2)

def write (fs : Files) (path : String) (f : StoredFile) : Files :=
  { fs with stored := (path, f) :: fs.stored.filter (·.1 ≠ path) }

def remove (fs : Files) (path : String) : Files := { fs with stored := fs.stored.filter (·.1 ≠ path) }

theorem find?_remove_of_ne (fs : Files) {path other : String} (h : other ≠ path) :
    (fs.remove path).find? other = fs.find? other := by
  simp only [find?, remove, List.find?_filter]
  congr 2
  funext e
  by_cases he : e.1 = other <;> simp [he, h]

@[simp] theorem find?_write_self (fs : Files) (path : String) (f : StoredFile) :
    (fs.write path f).find? path = some f := by
  simp [find?, write]

theorem find?_write_of_ne (fs : Files) {path other : String} (f : StoredFile) (h : other ≠ path) :
    (fs.write path f).find? other = fs.find? other := by
  rw [← find?_remove_of_ne fs h]
  simp only [find?, write, remove, List.find?_cons, decide_eq_false h.symm]

/-- Whether a path leads through something that is a file. -/
def throughFile (fs : Files) (path : String) : Bool := fs.stored.any fun e => (e.1 ++ "/").isPrefixOf path

/-- Why a path that names no file cannot be read as one. -/
def missing (fs : Files) (path : String) : IoError :=
  if fs.throughFile path then .notADirectory else .notFound

def read (fs : Files) (path : String) : Except IoError Text.Octets :=
  match fs.find? path with
  | some f => .ok f.content
  | none => .error (if fs.directories.contains path then .isADirectory else fs.missing path)

/-- The stamp of a file; a directory has one of its own. -/
def stamp (fs : Files) (path : String) : Except IoError Stamp :=
  match fs.find? path with
  | some f => .ok f.stamp
  | none => if fs.directories.contains path then .ok ⟨0, 0⟩ else .error (fs.missing path)

theorem stamp_write_self (fs : Files) (path : String) (f : StoredFile) :
    (fs.write path f).stamp path = .ok f.stamp := by
  simp [stamp]

theorem stamp_kept {fs later : Files} {path : String} {stamp : Stamp} (hf : later.find? path = fs.find? path)
    (hd : later.directories = fs.directories) (h : later.stamp path = .ok stamp) :
    fs.stamp path = .ok stamp ∧ later.read path = fs.read path := by
  simp only [Files.stamp, read, hf, hd] at h ⊢
  cases hfile : fs.find? path with
  | some f => exact ⟨by simpa only [hfile] using h, rfl⟩
  | none =>
    simp only [hfile] at h
    by_cases hdir : path ∈ fs.directories
    · simpa [hdir] using h
    · simp [hdir] at h

def readText (fs : Files) (path : String) : Except IoError String := do
  match Text.ofUtf8? (← fs.read path) with
  | some s => .ok s
  | none => .error .notUtf8

def within (directory name : String) : String :=
  if directory = "" ∨ directory.toList.getLast? = some '/' then directory ++ name else directory ++ "/" ++ name

def withAncestors (path : String) : List String :=
  let cs := path.toList
  let ends := (List.range cs.length).filter fun i => 0 < i ∧ cs[i]? = some '/'
  path :: ends.map fun i => String.ofList (cs.take i)

/-- Makes a directory with all above it. Slashes at the end do not count. -/
def makeDirectory (fs : Files) (path : String) : Except IoError Files :=
  let path := String.ofList (Text.dropEndWhile (· = '/') path.toList)
  if path = "" ∨ fs.directories.contains path then .ok fs
  else if (fs.find? path).isSome then .error .exists
  else if fs.throughFile path then .error .notADirectory
  else .ok { fs with directories := withAncestors path ++ fs.directories }

end Files

end ServiceHost
