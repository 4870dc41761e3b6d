import Handover.Action
import Handover.Fault
import Handover.Transfer.Framing

namespace Handover.TransferFile

def change (f : FileTree → Except FileFault FileTree) : Action FileTree Fault Unit :=
  fun t =>
    match f t with
    | .ok t => ⟨.ok (), t, []⟩
    | .error e => ⟨.error (.file e), t, []⟩

def ensureParent (cwd : Location) (p : Path) : Action FileTree Fault Unit :=
  fun t =>
    match t.ensureDirectory cwd p.parent with
    | (t, .ok ()) => ⟨.ok (), t, []⟩
    | (t, .error e) => ⟨.error (.file e), t, []⟩

def encoded (config : Option ConfigSnapshot) (settings : SettingsSnapshot) : Except Fault Bytes :=
  match Framing.encode config settings with
  | .ok bs => .ok bs
  | .error (.encoding e) => .error (.encoding e)
  | .error (.serialization e) => .error (.serialization e)
  | .error _ => .error .width

def temporary (p : Path) : Except Fault Path :=
  match p.name? with
  | some name => .ok (p.withName (name ++ ".tmp"))
  | none => .error .namelessPath

def discard (cwd : Location) (p : Path) : Action FileTree Fault Unit :=
  change fun t =>
    match t.unlink cwd p with
    | .error .notFound => .ok t
    | r => r

def place (cwd : Location) (tmp p : Path) (content : Bytes) : Action FileTree Fault Unit := do
  let moved ← Action.attempt do
    change fun t => t.write cwd tmp content
    change fun t => t.rename cwd tmp p
  match moved with
  | .ok () => pure ()
  | .error e => do
      discard cwd tmp
      Action.fail e

/-- Writes a transfer file under a temporary name beside its path and then moves it, so that none is
ever there in part. -/
def write (cwd : Location) (p : Path) (config : Option ConfigSnapshot)
    (settings : SettingsSnapshot) : Action FileTree Fault Unit := do
  ensureParent cwd p
  let content ← Action.lift (encoded config settings)
  let tmp ← Action.lift (temporary p)
  place cwd tmp p content
  Action.log .debug ("Wrote migration transfer file " ++ p.text)

def content (t : FileTree) (cwd : Location) (p : Path) : Except Fault Bytes :=
  match t.read cwd p with
  | .ok bs => .ok bs
  | .error e => .error (.file e)

def refused : Except Malformed α → Except Fault α
  | .ok a => .ok a
  | .error e => .error (.malformed e)

def readPayloads (t : FileTree) (cwd : Location) (p : Path) : Except Fault (Bytes × Bytes) :=
  match content t cwd p with
  | .error e => .error e
  | .ok bs => refused (Framing.payloads bs)

def read (t : FileTree) (cwd : Location) (p : Path) :
    Except Fault (Option ConfigSnapshot × SettingsSnapshot) :=
  match content t cwd p with
  | .error e => .error e
  | .ok bs => refused (Framing.decode bs)

end Handover.TransferFile
