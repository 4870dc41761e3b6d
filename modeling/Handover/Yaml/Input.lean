import Handover.Text.File
import Handover.Yaml.Cursor

namespace Handover.Yaml.Input

def size : Nat := 4096

def request (f : Text.File) : Except Fault (List Char × Text.File) :=
  (f.read (f.bytes.length + 2) size).mapError .notText

/-- What was read may be used only if all of it may stand in a document. -/
def checked (cs : List Char) : Except Fault Unit :=
  if cs.all isAllowed then .ok () else .error .malformed

def joined (cs : List Char) (rest : Input) : Input :=
  match checked cs with
  | .ok () => { rest with text := cs ++ rest.text }
  | .error e => ⟨[], some e⟩

def later : (fuel : Nat) → Text.File → Input
  | 0, _ => ⟨[], none⟩
  | fuel + 1, f =>
      match request f with
      | .error e => ⟨[], some e⟩
      | .ok ([], _) => ⟨[], none⟩
      | .ok (cs, f) => joined cs (later fuel f)

/-- The first two requests are checked as one. -/
def ofBytes (bs : Bytes) : Input :=
  match request { bytes := bs } with
  | .error e => ⟨[], some e⟩
  | .ok ([], _) => ⟨[], none⟩
  | .ok (first, f) =>
      match request f with
      | .error e => ⟨[], some e⟩
      | .ok (second, f) => joined (first ++ second) (later bs.length f)

end Handover.Yaml.Input
