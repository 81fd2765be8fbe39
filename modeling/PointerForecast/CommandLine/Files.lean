/-
**The system around a run.**

What a run needs of files, whatever they are: `Files m` reads and creates them by actions of `m`. A
`System m` has files, memory, and a log. A `Directory` is a file store in memory.
-/

import PointerForecast.CommandLine.Arguments
import PointerForecast.Loading
import PointerForecast.Replay

namespace PointerForecast

/-- Where a file that was created leads to. -/
inductive Sink where
  /-- It has nothing to do with the output of the run. -/
  | apart
  /-- It is the output of the run. -/
  | output
deriving DecidableEq, Repr

/-- Reading and creating files. -/
structure Files (m : Type → Type) where
  /-- The content of a file. -/
  read : String → m FileContent
  /-- Makes a file empty, whether it was there or not; says where it leads to, or why that is not
  possible. -/
  create : String → m (Except String Sink)

/-- The files, the memory and the log of a run. What a log says depends on the run and on the system, on
the time for one. -/
structure System (m : Type → Type) extends Files m where
  /-- Holds of a number of bytes that can be had at once. -/
  allocates : Nat → Bool
  /-- What a run logs until it ends or begins to print, given its settings and its trace. -/
  opening : Arguments → Settings Float → FileContent → String
  /-- What a run logs after it has printed its report. -/
  closing : Arguments → Settings Float → Report Float → String

/-- Files in memory, by their paths. -/
structure Directory where
  /-- The paths of the files with the contents. -/
  files : List (String × ByteArray)

namespace Directory

/-- Some files, and no others. -/
def ofFiles (files : List (String × ByteArray)) : Directory := ⟨files⟩

/-- The path of the output of a run. -/
def output : String := "/dev/stdout"

/-- Access to the files of a directory, for runs in memory. -/
def access : Files (StateM Directory) where
  read path directory :=
    (match directory.files.lookup path with
      | some bytes => .ok bytes
      | none => .error "No such file or directory (os error 2)", directory)
  create path directory :=
    if path = output then (.ok .output, directory)
    else (.ok .apart, ⟨(path, .empty) :: directory.files.filter (·.1 != path)⟩)

/-- A system with these files, which has all the memory that is asked for and logs two texts. -/
def system (opening closing : String) : System (StateM Directory) where
  toFiles := access
  allocates _ := true
  opening _ _ _ := opening
  closing _ _ _ := closing

end Directory

end PointerForecast
