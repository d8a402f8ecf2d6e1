import ClangAccess.Locator
import ClangAccess.Machine
import ClangAccess.Session

namespace ClangAccess

/-- One step of work with libclang on a machine whose files may change in between. Slots, backends and units
go by name. -/
inductive Step where
  | configure (slot : String) (dir : Path) (name : String)
  | locate (slot : String) (explicitDir : Option Path) (name : String)
  | current (slot name : String)
  | backend (name : String)
  | load (name : String)
  | same (first second : String)
  /-- A unit without a name is released as soon as it has been looked at. -/
  | parse (backend : String) (file : Path) (args : List String) (options : ParseOptions) (name : Option String)
  | unit (name : String)
  | drop (name : String)
  | write (path : Path) (item : Item)
  | remove (path : Path)

/-- What is seen of a step. -/
inductive Reply where
  | backend (backend : Backend) (isLoaded : Bool) (text : String)
  | unit (unit : ParsedUnit) (outline : Outline)
  | flag (value : Bool)
  | absent
  | done
  | failed (error : ClangError)
  | failedToParse (error : ClangError) (isLoaded : Bool)
  | unknownBackend (name : String)

structure Workspace where
  machine : Machine
  verbosity : LogLevel := .off
  process : Process := {}
  slots : List (String × Slot) := []
  backends : List (String × Backend) := []
  units : List (String × ParsedUnit) := []

namespace Workspace

/-- A list of named things with one more, in place of the thing that had the name. -/
def bind (name : String) (thing : α) (things : List (String × α)) : List (String × α) :=
  (name, thing) :: unbind name things
where
  unbind (name : String) (things : List (String × α)) : List (String × α) :=
    things.filter fun (other, _) => other ≠ name

def slot (w : Workspace) (name : String) : Slot := (w.slots.lookup name).getD {}

def use (w : Workspace) (work : Usage α) : α × Workspace :=
  let (result, process) := w.process.use work
  (result, { w with process })

def release (w : Workspace) (u : ParsedUnit) : Workspace := (w.use u.release).2

/-- The unit of a name goes, if there is one. -/
def drop (w : Workspace) (name : String) : Workspace :=
  match w.units.lookup name with
  | some u => { w.release u with units := bind.unbind name w.units }
  | none => w

def showBackend (w : Workspace) (b : Backend) : Reply :=
  .backend b (w.process.isLoaded b) (w.process.backendText b)

def showUnit (w : Workspace) (u : ParsedUnit) : Reply × Workspace :=
  let (outline, w) := w.use u.outline
  (.unit u outline, w)

/-- Fill a slot and give the backend a name. -/
def configure (w : Workspace) (slot : String) (dir : Path) (name : String) : Reply × Workspace :=
  let ((result, filled), process) := (Session.configure w.machine.view (w.slot slot) dir).run w.process
  let w := { w with process, slots := bind slot filled w.slots }
  match result with
  | .ok b => (w.showBackend b, { w with backends := bind name b w.backends })
  | .error e => (.failed e, w)

/-- Search for libclang and fill a slot with what is found. -/
def locate (w : Workspace) (slot : String) (explicitDir : Option Path) (name : String) : Reply × Workspace :=
  let host := w.machine.site.host Site.defaultTimeout
  let locator := Locator.withExplicitDir {} explicitDir
  let account := (locator.locate w.verbosity host.toPlatform).conduct host
  let w := { w with process := w.process.tell account.log }
  match account.result with
  | .ok toolchain => w.configure slot toolchain.libraryDir name
  | .error e => (.failed e, w)

/-- Let something be done with the backend of a name. -/
def withBackend (w : Workspace) (name : String) (work : Backend → Reply × Workspace) : Reply × Workspace :=
  match w.backends.lookup name with
  | some b => work b
  | none => (.unknownBackend name, w)

def load (w : Workspace) (b : Backend) : Reply × Workspace :=
  let (result, process) := (b.open w.machine.view).run.run w.process
  let w := { w with process }
  match result with
  | .ok _ => (w.showBackend b, w)
  | .error e => (.failed e, w)

def parse (w : Workspace) (b : Backend) (file : Path) (args : List String) (options : ParseOptions)
    (name : Option String) : Reply × Workspace :=
  let (result, process) := (Session.parse w.machine.view b file args options).run.run w.process
  let w := { w with process }
  match result with
  | .error e => (.failedToParse e (w.process.isLoaded b), w)
  | .ok u =>
    let (reply, w) := w.showUnit u
    match name with
    | none => (reply, w.release u)
    | some name =>
      let w := w.drop name
      (reply, { w with units := bind name u w.units })

def step (w : Workspace) : Step → Reply × Workspace
  | .configure slot dir name => w.configure slot dir name
  | .locate slot explicitDir name => w.locate slot explicitDir name
  | .current slot name =>
    match (w.slot slot).active with
    | some b => (w.showBackend b, { w with backends := bind name b w.backends })
    | none => (.absent, w)
  | .backend name => w.withBackend name fun b => (w.showBackend b, w)
  | .load name => w.withBackend name w.load
  | .same first second =>
    w.withBackend first fun a => w.withBackend second fun b => (.flag (a.sameAs b), w)
  | .parse backend file args options name => w.withBackend backend fun b => w.parse b file args options name
  | .unit name =>
    match w.units.lookup name with
    | some u => w.showUnit u
    | none => (.absent, w)
  | .drop name => (.flag (w.units.lookup name).isSome, w.drop name)
  | .write path item =>
    let tree := w.machine.tree.make w.machine.workingDir path item
    (.done, { w with machine := { w.machine with tree } })
  | .remove path =>
    let tree := w.machine.tree.remove w.machine.workingDir path
    (.done, { w with machine := { w.machine with tree } })

/-- All steps in their order. -/
def steps (w : Workspace) : List Step → List Reply × Workspace
  | [] => ([], w)
  | s :: rest =>
    let (reply, w) := w.step s
    let (replies, w) := w.steps rest
    (reply :: replies, w)

/-- The units that are alive go, in the order of their names. -/
def close (w : Workspace) : Workspace :=
  let names := (w.units.map Prod.fst).mergeSort fun a b => !(b < a)
  names.foldl drop w

end Workspace

end ClangAccess
