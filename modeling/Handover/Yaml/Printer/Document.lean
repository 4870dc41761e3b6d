import Handover.Number.Shortest
import Handover.Text.Base64
import Handover.Value.Basic
import Handover.Value.Display
import Handover.Yaml.Printer.Scalar

namespace Handover.Yaml.Printer

def floatDocumentText (x : Float) : String :=
  match Number.Binary64.ofFloat x with
  | .nan => ".nan"
  | .infinite negative => if negative then "-.inf" else ".inf"
  | .finite _ _ _ =>
      let s := Number.floatText x
      let mantissa := s.toList.takeWhile (· != 'e')
      let exponent := s.toList.dropWhile (· != 'e')
      if exponent.isEmpty || mantissa.contains '.' then s
      else String.ofList (mantissa ++ ['.', '0'] ++ exponent)

def pieces (size : Nat) : (fuel : Nat) → List Char → List (List Char)
  | 0, _ => []
  | _, [] => []
  | fuel + 1, cs => cs.take size :: pieces size fuel (cs.drop size)

def base64Lines (bs : Bytes) : List (List Char) :=
  let cs := Text.Base64.encode bs
  pieces 76 cs.length cs

def nullForm : Form :=
  ⟨.null, .proper "null", none⟩

def form? : Value → Option Form
  | .null => some nullForm
  | .bool b => some ⟨.bool, .proper (if b then "true" else "false"), none⟩
  | .int n => some ⟨.int, .proper (toString n), none⟩
  | .float x => some ⟨.float, .proper (floatDocumentText x), none⟩
  | .text t => some ⟨.text, t, none⟩
  | .bytes b =>
      some ⟨.binary, .proper (String.ofList (Text.Base64.encode b)),
        if b.isEmpty then none else some (base64Lines b)⟩
  | .date d => some ⟨.timestamp, d.text, none⟩
  | .dateTime t => some ⟨.timestamp, t.text " ", none⟩
  | _ => none

inductive Context where
  | root
  | sequence
  | mapping
  deriving DecidableEq, Repr

def inner (indent : Option Nat) : Nat :=
  match indent with
  | none => 0
  | some n => n + 2

/-- A sequence right after a key is not indented further. -/
def sequenceIndent (indent : Option Nat) (context : Context) (p : Page) : Nat :=
  match indent with
  | some n => if context = .mapping && !p.fresh then n else n + 2
  | none => 0

def isSimpleKey : Value → Bool
  | .list [] => true
  | .tuple [] => true
  | .set [] => true
  | .map [] => true
  | v => (form? v).any Form.isSimpleKey

def tupleTag : List Char :=
  "!!python/tuple".toList

mutual

def write (indent : Option Nat) (context : Context) (split : Bool) : Value → Page → Page
  | .list [], p => (p.spacedMark ['[']).mark [']']
  | .list (v :: rest), p => writeItems (sequenceIndent indent context p) (v :: rest) p
  | .tuple [], p => ((p.spacedMark tupleTag).spacedMark ['[']).mark [']']
  | .tuple (v :: rest), p =>
      let p := p.spacedMark tupleTag
      writeItems (sequenceIndent indent context p) (v :: rest) p
  | .set [], p => ((p.spacedMark "!!set".toList).spacedMark ['\x7b']).mark ['\x7d']
  | .set (v :: rest), p => writeMembers (inner indent) (v :: rest) (p.spacedMark "!!set".toList)
  | .map [], p => (p.spacedMark ['\x7b']).mark ['\x7d']
  | .map (e :: rest), p => writeEntries (inner indent) (e :: rest) p
  | v, p =>
      match form? v with
      | some f => f.write split (inner indent) p
      | none => p

def writeItems (indent : Nat) : List Value → Page → Page
  | [], p => p
  | v :: rest, p =>
      writeItems indent rest (write (some indent) .sequence true v ((p.goTo indent).blockMark ['-']))

def writeMembers (indent : Nat) : List Value → Page → Page
  | [], p => p
  | v :: rest, p =>
      let simple := isSimpleKey v
      let p := p.goTo indent
      let p := if simple then p else p.blockMark ['?']
      let p := write (some indent) .mapping (!simple) v p
      let p := if simple then p.mark [':'] else (p.goTo indent).blockMark [':']
      writeMembers indent rest (nullForm.write true (inner (some indent)) p)

def writeEntries (indent : Nat) : List (Value × Value) → Page → Page
  | [], p => p
  | (k, v) :: rest, p =>
      let simple := isSimpleKey k
      let p := p.goTo indent
      let p := if simple then p else p.blockMark ['?']
      let p := write (some indent) .mapping (!simple) k p
      let p := if simple then p.mark [':'] else (p.goTo indent).blockMark [':']
      writeEntries indent rest (write (some indent) .mapping true v p)

end

/-- A mapping as the text of a document: mappings and sequences as blocks, one entry a line. -/
def document (entries : List (Value × Value)) : List Char :=
  ((write none .root true (.map entries) {}).goTo 0).text

end Handover.Yaml.Printer
