import ClangAccess.Error
import ClangAccess.FileView
import ClangAccess.Library.Usage
import ClangAccess.Log
import ClangAccess.Toolchain

namespace ClangAccess

/-- A libclang that has been decided on. It is opened when it is first needed. Two backends are the same
only if they come from the same decision. -/
structure Backend where
  number : Nat
  libraryFile : Path
  deriving DecidableEq, Repr

def Backend.sameAs (a b : Backend) : Bool := a.number = b.number

/-- Room for one backend. -/
structure Slot where
  active : Option Backend := none
  deriving DecidableEq, Repr

/-- What came of an attempt to fill a slot. -/
structure Configured where
  result : Except ClangError Backend
  slot : Slot
  log : List Record

namespace Slot

/-- The library file that a directory stands for. -/
def candidate (dir : Path) : Path := dir.join libraryName

/-- The first library that is asked for stays. Asking for it again, by whatever name, gives the same
backend; another one is refused. A new backend gets the number `fresh`. -/
def configure (slot : Slot) (view : FileView) (fresh : Nat) (dir : Path) : Configured :=
  let file := candidate dir
  let testing := Record.debug s!"loading libclang: testing {file.display}"
  if view.isFile file then
    let requested := (view.canonical? file).getD file
    match slot.active with
    | none =>
      let backend : Backend := ⟨fresh, requested⟩
      ⟨.ok backend, ⟨some backend⟩, [testing, .debug s!"loading libclang: using {requested.display}"]⟩
    | some active =>
      if active.libraryFile.Same requested then ⟨.ok active, slot, [testing]⟩
      else ⟨.error (.backendConflict active.libraryFile requested), slot, [testing]⟩
  else
    ⟨.error (.libraryNotFound file), slot, [testing, .debug "loading libclang: lib not found!"]⟩

end Slot

end ClangAccess
