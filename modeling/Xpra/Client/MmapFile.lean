import Xpra.Client.Host

/-! The backing file of the shared area: how `do_create` in `client/mmap.rs` comes by
it, and what is left in the directory when it fails. -/

namespace Xpra.Client
open Xpra.Net Library

/-- The files there are, and the calls of `remove_file` so far. Whoever may create a
file may remove it. -/
structure Disk where
  files : List String
  removed : List String := []
  deriving DecidableEq, Repr

namespace Disk

def add (disk : Disk) (path : String) : Disk := { disk with files := disk.files ++ [path] }

def remove (disk : Disk) (path : String) : Disk :=
  { files := disk.files.filter (· ≠ path), removed := disk.removed ++ [path] }

end Disk

/-- What `do_create` asks of the environment and of the system. A call that returns
nothing here has succeeded. -/
structure MmapSetup where
  option : String := ""
  /-- XPRA_MMAP_DIR or the temporary directory, with a file name joined to it; an error
  is the directory as it is quoted in messages. -/
  joined : String → Except String String
  hex : String := ""
  /-- XPRA_MMAP_SIZE. -/
  sizeOption : Option String := none
  /-- Whether a file that is there can be seen. -/
  visible : Bool := true
  opened : Option String := none
  stat : Except String Nat := .ok 0
  content : Nat → UInt8 := fun _ => 0
  created : Option String := none
  sized : Option String := none
  mapped : Option String := none
  first : UInt64 := 0
  second : UInt64 := 0

def DEFAULT_SIZE : Nat := 128 * 1024 * 1024

def parseUsize (text : String) : Option Nat := (parseU128 text).filter (· < USIZE)

def envSize (value : Option String) : Option Nat :=
  value.bind fun value =>
    let trimmed := (trim value).toList
    trimmed.getLast?.bind fun last =>
      let scaled (scale : Nat) (digits : List Char) : Option Nat :=
        (parseUsize (trim (String.ofList digits))).map fun size => min (size * scale) (USIZE - 1)
      match last with
      | 'k' | 'K' => scaled 1024 trimmed.dropLast
      | 'm' | 'M' => scaled (1024 * 1024) trimmed.dropLast
      | 'g' | 'G' => scaled (1024 * 1024 * 1024) trimmed.dropLast
      | _ => scaled 1 trimmed

def sizeStr (size : Nat) : String := s!"{size / 1024 / 1024}MB"

def MmapArea.mapped (path : String) (delete : Bool) (memory : Memory) (bounds : MIN_SIZE ≤ memory.size ∧ memory.size ≤ MAX_SIZE)
    (first second : UInt64) : MmapArea where
  memory := (genToken memory first second).1
  path := path
  delete := delete
  token := first
  tokenIndex := (genToken memory first second).2.2
  lower := by simp only [genToken, writeToken_size]; exact bounds.1
  upper := by simp only [genToken, writeToken_size]; exact bounds.2

variable (host : Host) (setup : MmapSetup)

/-- `failed`: a file of the client's own making is removed on the way out. -/
def failed (disk : Disk) (path : String) (delete : Bool) (message : String) : Except String MmapArea × Disk :=
  (.error message, if delete then disk.remove path else disk)

/-- The rest of `do_create`, once the file is open. -/
def mapFile (disk : Disk) (path : String) (existing : Bool) (memory : Memory) : Except String MmapArea × Disk :=
  if bounds : MIN_SIZE ≤ memory.size ∧ memory.size ≤ MAX_SIZE then
    match setup.mapped with
    | some error => failed disk path (!existing) s!"failed to map {host.quote path}: {error}"
    | none => (.ok (.mapped path (!existing) memory bounds setup.first setup.second), disk)
  else
    failed disk path (!existing) (s!"unusable mmap size {sizeStr memory.size}: it must be between {sizeStr MIN_SIZE} " ++
      s!"and {sizeStr MAX_SIZE}")

def openFile (disk : Disk) (path : String) : Except String MmapArea × Disk :=
  match setup.opened with
  | some error => (.error s!"cannot open {host.quote path}: {error}", disk)
  | none => match setup.stat with
    | .error error => (.error s!"cannot stat {host.quote path}: {error}", disk)
    | .ok size => mapFile host setup disk path true ⟨size, setup.content⟩

def createFile (disk : Disk) (path : String) : Except String MmapArea × Disk :=
  let size := max MIN_SIZE (min ((envSize setup.sizeOption).getD DEFAULT_SIZE) MAX_SIZE)
  if path ∈ disk.files then (.error s!"cannot create {host.quote path}: File exists (os error 17)", disk)
  else match setup.created with
    | some error => (.error s!"cannot create {host.quote path}: {error}", disk)
    | none =>
      let disk := disk.add path
      match setup.sized with
      | some error => failed disk path true s!"cannot size {host.quote path} to {size} bytes: {error}"
      | none => mapFile host setup disk path false (.zeros size)

def doCreate (disk : Disk) : Except String MmapArea × Disk :=
  if trim (String.ofList (setup.option.toList.map Char.toLower)) ∈ ["no", "false", "0", "off"] then (.error "", disk)
  else if startsWith setup.option "/" then
    if setup.option ∈ disk.files ∧ setup.visible = true then openFile host setup disk setup.option
    else createFile host setup disk setup.option
  else match setup.joined s!"xpra-{setup.hex}.mmap" with
    | .error dir => (.error s!"temporary directory {dir} is not valid utf-8", disk)
    | .ok path => createFile host setup disk path

/-- `MmapArea::create`. -/
def createArea (disk : Disk) : Option MmapArea × Disk :=
  if host.windows then (none, disk)
  else match doCreate host setup disk with
    | (.ok area, disk) => (some area, disk)
    | (.error _, disk) => (none, disk)

end Xpra.Client
