import SeriesQuery.Device

/-! # What the program asks of its surroundings

The files it reads and writes, and the clock. Everything else the program does is a function of the
answers, so it runs the same over a real system and over a tree of files in memory.
-/

namespace SeriesQuery

/-- What is found under a path. -/
structure FileState where
  /-- Whether there is a file or a directory. -/
  found : Bool
  contents : Except DeviceFault (List UInt8)

def FileState.ofContents (contents : Except DeviceFault (List UInt8)) : FileState :=
  match contents with
  | .ok _ => ⟨true, contents⟩
  | .error fault => ⟨fault.isInPlace, contents⟩

/-- The surroundings of the program. -/
structure Host (m : Type → Type) where
  /-- What is found under a path. -/
  file : String → m FileState
  /-- Makes a directory and those above it; one that exists is left alone. -/
  makeDirectories : String → m (Except DeviceFault Unit)
  /-- Replaces the contents of a file, which need not exist. -/
  write : String → List UInt8 → m (Except DeviceFault Unit)
  /-- Opens a file for appending; a missing one is made. -/
  openLog : String → m (Except DeviceFault Unit)
  /-- Unix time in milliseconds. -/
  now : m Int64

end SeriesQuery
