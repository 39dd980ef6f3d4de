import BankedZ80.Engine
import BankedZ80.Host.Path
import BankedZ80.Host.Program
import BankedZ80.Text.LowerCase

/-!
# Serving file transfers

Between batches the host serves what the guest asked of the host file device: it delivers a file of
the imports directory, or stores a finished file in the exports directory.

* Only the last component of a name counts, so nothing outside the two directories is ever touched.
* A file is found by its name, the case of ASCII letters aside; failing that, the first file in byte
  order is delivered. `chooseImport` does not depend on the order of the listing.
-/

namespace BankedZ80

/-- What serving a transfer did. -/
inductive TransferEvent where
  /-- A file of this many bytes was delivered. -/
  | served (path : String) (bytes : Nat)
  /-- The request could not be met. -/
  | cancelled (name : String)
  /-- A file of this many bytes was stored. -/
  | saved (path : String) (bytes : Nat)
  /-- A file could not be stored. -/
  | dropped (name : String)
deriving DecidableEq, Repr

/-- The directories that files come from and go to. -/
structure FileTransfer where
  imports : String
  exports : String
deriving DecidableEq, Repr

namespace FileTransfer

/-- A name with its ASCII letters in lower case. -/
def foldCase (name : String) : List Char := Text.lowerAscii name.toList

/-- The file to deliver, of those in the imports directory. -/
def chooseImport (files : List String) (requested : String) : Option String :=
  let sorted := files.mergeSort fun a b => a ≤ b
  let exact := do
    let wanted ← Path.fileName? requested
    sorted.find? fun file => foldCase file = foldCase wanted
  exact <|> sorted.head?

/-- Refuse the request that the guest waits for. -/
def refuse (e : Engine) (name : String) : Option TransferEvent × Engine :=
  (some (.cancelled name), e.cancelFile.getD e)

/-- Meet a request. -/
def serveRead (t : FileTransfer) (e : Engine) (name : String) :
    HostProgram (Option TransferEvent × Engine) := do
  match ← HostProgram.askFiles t.imports with
  | none => return refuse e name
  | some files =>
    match chooseImport files name with
    | none => return refuse e name
    | some file =>
      let path := Path.join t.imports file
      match ← HostProgram.askFile path with
      | .error _ => return refuse e name
      | .ok contents =>
        return (some (.served path contents.size),
          (e.provideFile (Bytes.toList contents)).getD e)

/-- Store a finished file, and take it off the guest's hands in any case. -/
def storeWrite (t : FileTransfer) (e : Engine) (name : String) (contents : ByteArray) :
    HostProgram (Option TransferEvent × Engine) := do
  let done := e.acknowledgeFile.getD e
  match Path.fileName? name with
  | none => return (some (.dropped name), done)
  | some file =>
    let path := Path.join t.exports file
    if ← HostProgram.putFile path contents then return (some (.saved path contents.size), done)
    else return (some (.dropped name), done)

/-- Serve the transfer that is waiting, if there is one. -/
def service (t : FileTransfer) (e : Engine) : HostProgram (Option TransferEvent × Engine) :=
  let device := e.devices.hostFile
  match device.state with
  | .waitingRead => t.serveRead e (device.requestedName.getD "")
  | .writeReady => t.storeWrite e (device.finishedName.getD "") (device.finishedData.getD .empty)
  | _ => return (none, e)

end FileTransfer

end BankedZ80
