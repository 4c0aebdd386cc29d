import SimApprove.Error
import SimApprove.Text.Numeral
import SimApprove.Text.Split
import SimApprove.Text.Utf8

/-!
# Locators of databases

The engine takes most paths as they are. One that starts with `file:` is a
locator instead: an authority may follow, which has to be empty or this host,
then a path with bytes written as `%HH`, then options after `?`. What follows `#`
is dropped. `Locator.ofPath` reads a path either way.
-/

namespace SimApprove.Consent

inductive Access
  | readWrite
  | readOnly
  /-- As a new database that no file holds. -/
  | inMemory
  /-- With a new file, if there is none. -/
  | creating
  deriving DecidableEq, Repr

/-- A file by the bytes of its path, and how to open it. -/
structure Locator where
  path : List UInt8
  access : Access := .readWrite
  /-- What the file holds is never to change. -/
  immutable : Bool := false
  deriving DecidableEq, Repr

namespace Locator

/-! ## Escapes -/

def percentDecode : List Char → List UInt8
  | '%' :: a :: b :: cs =>
    match Text.hexValue? a, Text.hexValue? b with
    | some high, some low => UInt8.ofNat (high * 16 + low) :: percentDecode cs
    | _, _ => [0x25] ++ percentDecode (a :: b :: cs)
  | c :: cs => String.utf8EncodeChar c ++ percentDecode cs
  | [] => []

/-- The bytes of a component, which a zero byte cuts short. -/
def component (cs : List Char) : List UInt8 := (percentDecode cs).takeWhile (· ≠ 0)

def componentText (cs : List Char) : String := Text.Utf8.decodeLossy (component cs)

/-! ## Options -/

/-- An option without a name is passed over. -/
def readOption? (cs : List Char) : Option (String × String) :=
  let (name, value) := Text.splitFirst '=' cs
  if componentText name = "" then none
  else some (componentText name, componentText (value.getD []))

/-- An access may be narrowed but not widened. In memory there is nothing to be careful of, so
any access may follow. -/
def readMode (sofar : Access) (value : String) : Except EngineError Access :=
  match value, sofar with
  | "memory", _ => .ok .inMemory
  | "ro", _ => .ok .readOnly
  | "rw", .readOnly => .error (.modeNotAllowed "access" "rw")
  | "rw", _ => .ok .readWrite
  | "rwc", .inMemory => .ok .creating
  | "rwc", .creating => .ok .creating
  | "rwc", _ => .error (.modeNotAllowed "access" "rwc")
  | _, _ => .error (.noSuchMode "access" value)

def hexNumber (sofar : Nat) : List Char → Nat
  | [] => sofar
  | c :: cs =>
    match Text.hexValue? c with
    | some digit => hexNumber (sofar * 16 + digit) cs
    | none => sofar

/-- The number that a text starts with; one beyond 31 bits counts as zero. -/
def leadingNumber (cs : List Char) : Nat :=
  let number :=
    match cs with
    | '0' :: 'x' :: rest | '0' :: 'X' :: rest => hexNumber 0 rest
    | cs => Text.digitsValue 0 (cs.takeWhile Char.isDigit)
  if number < Nat.pow 2 31 then number else 0

/-- Of a number the last eight bits decide. -/
def isOn (value : String) : Bool :=
  if (value.toList.head?.map Char.isDigit).getD false then leadingNumber value.toList % 256 ≠ 0
  else ["on", "yes", "true"].contains (String.ofList (value.toList.map Char.toLower))

/-- The first option of its name counts. -/
def isImmutable (options : List (String × String)) : Bool :=
  match options.find? (·.1 = "immutable") with
  | some option => isOn option.2
  | none => false

/-- The file systems that are known by name; the last keeps everything in memory. -/
def fileSystems : List String := ["unix", "unix-none", "unix-dotfile", "unix-excl", "memdb"]

def readOptions (access : Access) (fileSystem : String) :
    List (String × String) → Except EngineError Access
  | [] =>
    if !fileSystems.contains fileSystem then .error (.noSuchFileSystem fileSystem)
    else .ok (if fileSystem = "memdb" then .inMemory else access)
  | (name, value) :: rest =>
    match name with
    | "vfs" => readOptions access value rest
    | "cache" =>
      if value = "shared" ∨ value = "private" then readOptions access fileSystem rest
      else .error (.noSuchMode "cache" value)
    | "mode" => do readOptions (← readMode access value) fileSystem rest
    | _ => readOptions access fileSystem rest

/-! ## Locators -/

def dropAuthority : List Char → Except EngineError (List Char)
  | '/' :: '/' :: cs =>
    let name := String.ofList (cs.takeWhile (· ≠ '/'))
    if name = "" ∨ name = "localhost" then .ok (cs.dropWhile (· ≠ '/'))
    else .error (.invalidAuthority name)
  | cs => .ok cs

def read (cs : List Char) : Except EngineError Locator := do
  let cs ← dropAuthority cs
  let (path, options) := Text.splitFirst '?' (cs.takeWhile (· ≠ '#'))
  let options := ((options.map (Text.split '&')).getD []).filterMap readOption?
  let access ← readOptions .readWrite "unix" options
  .ok ⟨component path, access, isImmutable options⟩

def memoryPath : List UInt8 := ":memory:".toUTF8.toList

/-- Without a path, too, a new database is opened. -/
def ofPath (path : String) : Except EngineError Locator := do
  let locator ← match path.toList with
    | 'f' :: 'i' :: 'l' :: 'e' :: ':' :: cs => read cs
    | _ => .ok ⟨path.toUTF8.toList, .readWrite, false⟩
  if locator.path = [] ∨ locator.path = memoryPath then
    .ok { locator with access := .inMemory }
  else .ok locator

end Locator

end SimApprove.Consent
