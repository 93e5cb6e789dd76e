import SnapshotSuite.Toolbox.Limit
import SnapshotSuite.Toolbox.SystemError
/-!
# Files that are open

A world is a tree of files and the list of the files that are open in it. Several descriptors of
several processes can lead to one open file, and then share its place in the content. What is
written to a sink is kept, part by part, for whoever made the sink. A sink that only takes so much
breaks at the first writing that is too long for it, and stays broken.
-/

namespace SnapshotSuite

namespace Toolbox

/-- How much a sink still takes. -/
inductive Room where
  /-- Whatever is written. -/
  | endless
  /-- So many bytes. -/
  | bytes (n : Nat)
  /-- Nothing: more was written than it could take. -/
  | exceeded
deriving DecidableEq, Repr

/-- The room that is left when so many bytes have been written, if they fit. -/
def Room.less? (room : Room) (count : Nat) : Option Room :=
  match room with
  | .endless => some .endless
  | .bytes n => if count ≤ n then some (.bytes (n - count)) else none
  | .exceeded => none

/-- Where an open file leads. -/
inductive Stream where
  /-- Nowhere: there is nothing to read, and what is written is lost. -/
  | nothing
  /-- To bytes that are still to be read; some may have been missing already. -/
  | source (rest : Bytes) (isWanting : Bool)
  /-- To bytes that have been written, the last part first. -/
  | sink (parts : List Bytes) (room : Room)
  /-- Into a file. -/
  | file (place : Location) (offset : Nat)
  /-- To a directory. -/
  | directory (place : Location)

/-- A file that is open. -/
structure OpenFile where
  /-- Where it leads. -/
  stream : Stream
  /-- Whether it can be read. -/
  isReadable : Bool
  /-- Whether it can be written. -/
  isWritable : Bool
  /-- Whether all writing goes to the end. -/
  appends : Bool

/-- What a file is opened for. -/
inductive Purpose where
  /-- To be read. -/
  | reading
  /-- To be written from the start, the old content lost. -/
  | writing
  /-- To be written at the end. -/
  | appending
  /-- To be read and written. -/
  | both
  /-- To be written, if nothing stood there before. -/
  | creating
deriving DecidableEq, Repr

/-- A tree and the files that are open in it. -/
structure World where
  /-- The files and directories. -/
  tree : Tree
  /-- The open files. -/
  files : Array OpenFile
  /-- The number of the process that was started last. -/
  lastProcess : Nat
  /-- The signals that have been sent, each to a process. -/
  signals : List (Nat × Nat)
  /-- Why something that a tool has printed could not be written. -/
  loss? : Option SystemError

/-- What a running program has to itself. -/
structure Process where
  /-- Its number. -/
  number : Nat
  /-- The number of the process that started it. -/
  parent : Nat
  /-- Its working directory. -/
  directory : Location
  /-- Its descriptors, and the open files to which they lead. -/
  descriptors : List (Nat × Nat)
  /-- Its variables. -/
  environment : List (Octets × Octets)
  /-- The signals that it ignores. -/
  ignored : List Nat
  /-- The permissions that its new files do not get. -/
  mask : Nat
  /-- What it may use. -/
  limits : List Limit

namespace Process

/-- The files as the process names them. -/
def workspace (process : Process) (world : World) : Workspace :=
  ⟨world.tree, process.directory⟩

/-- The path of the working directory. -/
def directoryPath (process : Process) : Octets :=
  "/" ++ "/".intercalate (process.directory.reverse.map Octets.ofText)

end Process

/-- Bytes with others put over them from an offset on; a gap is filled with noughts. -/
def overwrite (content : Bytes) (offset : Nat) (bs : Bytes) : Bytes :=
  content.take offset ++ List.replicate (offset - content.length) 0 ++ bs ++
    content.drop (offset + bs.length)

namespace World

/-- The content of the file at a location, empty if there is none. -/
def contentAt (world : World) (place : Location) : Bytes :=
  match world.tree.at? place with
  | some (.file content) => content
  | _ => []

/-- The world with one more open file, and its index. -/
def add (world : World) (file : OpenFile) : Nat × World :=
  (world.files.size, { world with files := world.files.push file })

/-- The world with an open file changed. -/
def update (world : World) (index : Nat) (stream : Stream) : World :=
  { world with files := world.files.modify index fun file => { file with stream } }

/-- A new source of some bytes. -/
def addSource (world : World) (bs : Bytes) : Nat × World :=
  world.add ⟨.source bs false, true, false, false⟩

/-- A new sink with some room. -/
def addSink (world : World) (room : Room) : Nat × World :=
  world.add ⟨.sink [] room, false, true, false⟩

/-- What has been written to a sink. -/
def written (world : World) (index : Nat) : Bytes :=
  match world.files[index]? with
  | some ⟨.sink parts _, _, _, _⟩ => parts.reverse.flatten
  | _ => []

/-- Whether a sink is broken. -/
def isBroken (world : World) (index : Nat) : Bool :=
  match world.files[index]? with
  | some ⟨.sink _ .exceeded, _, _, _⟩ => true
  | _ => false

/-- The world with a sink that is broken. -/
def breaking (world : World) (index : Nat) : World :=
  match world.files[index]? with
  | some ⟨.sink parts _, _, _, _⟩ => world.update index (.sink parts .exceeded)
  | _ => world

/-- Whether more may have been wanted of a source than it had. -/
def isWanting (world : World) (index : Nat) : Bool :=
  match world.files[index]? with
  | some ⟨.source _ isWanting, _, _, _⟩ => isWanting
  | _ => false

/-- Reads as many bytes of an open file as `share` says, which sees all that could be read. -/
def consume (world : World) (index : Nat) (share : Bytes → Nat) :
    Except SystemError (Bytes × World) :=
  match world.files[index]? with
  | none => .error .badDescriptor
  | some file =>
    if !file.isReadable then .error .badDescriptor
    else
      match file.stream with
      | .nothing | .sink .. => .ok ([], world)
      | .source rest _ =>
        let count := share rest
        let left := Stream.source (rest.drop count) (rest.length ≤ count)
        .ok (rest.take count, world.update index left)
      | .file place offset =>
        let rest := (world.contentAt place).drop offset
        let taken := rest.take (share rest)
        .ok (taken, world.update index (.file place (offset + taken.length)))
      | .directory _ => .error (.access .isDirectory)

/-- The world after whoever reads an open file stops in front of bytes that have been read ahead.
They are read again from a file; from a source only if `isExact` says that they were not taken at
all. -/
def stopReading (world : World) (index : Nat) (isExact : Bool) (ahead : Bytes) : World :=
  match world.files[index]? with
  | some ⟨.file place offset, _, _, _⟩ =>
    world.update index (.file place (offset - ahead.length))
  | some ⟨.source rest _, _, _, _⟩ =>
    world.update index (.source (if isExact then ahead ++ rest else rest) false)
  | _ => world

/-- Writes bytes to an open file. -/
def append (world : World) (index : Nat) (bs : Bytes) : Except SystemError World :=
  match world.files[index]? with
  | none => .error .badDescriptor
  | some file =>
    if !file.isWritable then .error .badDescriptor
    else
      match file.stream with
      | .nothing | .source .. | .directory _ => .ok world
      | .sink parts room =>
        match room.less? bs.length with
        | some room => .ok (world.update index (.sink (bs :: parts) room))
        | none => .error .brokenPipe
      | .file place offset =>
        let content := world.contentAt place
        let offset := if file.appends then content.length else offset
        let tree :=
          if (world.tree.at? place).isNone then world.tree
          else world.tree.put place (.file (overwrite content offset bs))
        .ok ({ world with tree }.update index (.file place (offset + bs.length)))

/-- The descriptor that the name of a device stands for. -/
def deviceDescriptor? : Location → Option Nat
  | ["stdin", "dev"] => some 0
  | ["stdout", "dev"] => some 1
  | ["stderr", "dev"] => some 2
  | [name, "fd", "dev"] | [name, "fd", "self", "proc"] =>
    if isNumber name then some (digitsValue name.toList) else none
  | _ => none

/-- Opens what stands at a location, which is found already. -/
def openNode (world : World) (purpose : Purpose) (place : Location) :
    Except SystemError (Nat × World) :=
  let isReadable := purpose = .reading ∨ purpose = .both
  let isWritable := purpose ≠ .reading
  let openFile (world : World) : Nat × World :=
    world.add ⟨.file place 0, isReadable, isWritable, purpose = .appending⟩
  match world.tree.at? place with
  | some .directory =>
    if isWritable then .error (.access .isDirectory)
    else .ok (world.add ⟨.directory place, true, false, false⟩)
  | some (.file _) =>
    if purpose = .creating then .error .exists
    else if purpose = .writing then
      .ok (openFile { world with tree := world.tree.put place (.file []) })
    else .ok (openFile world)
  | none =>
    if isWritable then .ok (openFile { world with tree := world.tree.put place (.file []) })
    else .error (.access .notFound)

/-- Opens the file at a path. -/
def openPath (world : World) (process : Process) (purpose : Purpose) (path : Octets) :
    Except SystemError (Nat × World) :=
  let path := Octets.text path
  let workspace := process.workspace world
  let place := workspace.place path
  let isWritable := purpose ≠ .reading
  if place = ["null", "dev"] then
    .ok (world.add ⟨.nothing, !isWritable || purpose = .both, isWritable, false⟩)
  else
    match deviceDescriptor? place with
    | some descriptor =>
      match process.descriptors.lookup descriptor with
      | none => .error (.access .notFound)
      | some index =>
        match world.files[index]? with
        | some ⟨.file place _, _, _, _⟩ => world.openNode purpose place
        | some ⟨.directory place, _, _, _⟩ => world.openNode purpose place
        | _ => .ok (index, world)
    | none =>
      match if isWritable then workspace.target path else workspace.locate path with
      | .ok place => world.openNode purpose place
      | .error cause => .error (.access cause)

end World

end Toolbox

end SnapshotSuite
