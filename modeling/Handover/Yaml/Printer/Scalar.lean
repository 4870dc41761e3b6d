import Handover.Text.Encoding
import Handover.Yaml.Page
import Handover.Yaml.Tag

namespace Handover.Yaml.Printer

def isOrdinary (c : Char) : Bool :=
  c == '\n' || (' ' ≤ c && c ≤ '~')

def hasPair (x y : Char) : List Char → Bool
  | a :: b :: rest => (a == x && b == y) || hasPair x y (b :: rest)
  | _ => false

def isEdgeBlank (c : Option Char) : Bool :=
  c == some ' ' || c == some '\n'

def hasInnerMark : (previous : Char) → List Char → Bool
  | _, [] => false
  | previous, c :: rest =>
      (c == ':' && isSeparator (rest.headD endMark)) ||
        (c == '#' && isSeparator previous) || hasInnerMark c rest

def startsWithMark (cs : List Char) : Bool :=
  match cs with
  | [] => false
  | c :: rest =>
      ("#,[]\x7b\x7d&*!|>'\"%@\x60").toList.contains c ||
        ((c == '?' || c == ':' || c == '-') && isSeparator (rest.headD endMark)) ||
        cs.take 3 == ['-', '-', '-'] || cs.take 3 == ['.', '.', '.']

def allowsPlain (cs : List Char) : Bool :=
  cs.isEmpty ||
    (cs.all (fun c => isOrdinary c && c != '\n') && !isEdgeBlank cs.head? &&
      !isEdgeBlank cs.getLast? && !startsWithMark cs && !hasInnerMark (cs.headD ' ') (cs.drop 1))

def allowsSingle (cs : List Char) : Bool :=
  cs.all isOrdinary && !hasPair '\n' ' ' cs && !hasPair ' ' '\n' cs

def rows : List Char → List (List Char)
  | [] => []
  | c :: rest =>
      match rows rest with
      | [] => [[c]]
      | [] :: more => [c] :: more
      | (d :: row) :: more =>
          let blank (x : Char) := x == ' ' || x == '\n'
          if c == d || (!blank c && !blank d) then (c :: d :: row) :: more
          else [c] :: (d :: row) :: more

/-- Whether a line can be broken at a row: a single space beyond the width. -/
def breaksAt (split : Bool) (p : Page) (row : List Char) : Bool :=
  split && row == [' '] && Page.width < p.column

def writePlainRow (split : Bool) (indent : Nat) (p : Page) (row : List Char) : Page :=
  if breaksAt split p row then (p.goTo indent).settle else p.write row

def writePlain (split : Bool) (indent : Nat) (cs : List Char) (p : Page) : Page :=
  let p := if p.spaced then p else p.write [' ']
  (rows cs).foldl (writePlainRow split indent) p.settle

def doubleQuotes (cs : List Char) : List Char :=
  cs.flatMap fun c => if c == '\'' then ['\'', '\''] else [c]

def writeSingleRows (split : Bool) (indent : Nat) :
    (inside : Bool) → List (List Char) → Page → Page
  | _, [], p => p
  | inside, row :: rest, p =>
      let p :=
        if row.head? == some '\n' then
          ((List.replicate (row.length + 1) ()).foldl (fun p _ => p.lineBreak) p).goTo indent
        else if inside && !rest.isEmpty && breaksAt split p row then p.goTo indent
        else p.write (doubleQuotes row)
      writeSingleRows split indent true rest p

def writeSingle (split : Bool) (indent : Nat) (cs : List Char) (p : Page) : Page :=
  (writeSingleRows split indent false (rows cs) (p.spacedMark ['\''])).mark ['\'']

def shortEscape? : Nat → Option Char
  | 0x00 => some '0'
  | 0x07 => some 'a'
  | 0x08 => some 'b'
  | 0x09 => some 't'
  | 0x0A => some 'n'
  | 0x0B => some 'v'
  | 0x0C => some 'f'
  | 0x0D => some 'r'
  | 0x1B => some 'e'
  | 0x22 => some '"'
  | 0x5C => some '\\'
  | 0x85 => some 'N'
  | 0xA0 => some '_'
  | 0x2028 => some 'L'
  | 0x2029 => some 'P'
  | _ => none

def upperHex (width n : Nat) : List Char :=
  (Text.Quoted.hexDigits width n).map Char.toUpper

def escape? (n : Nat) : Option (List Char) :=
  match shortEscape? n with
  | some c => some ['\\', c]
  | none =>
      if 0x20 ≤ n && n ≤ 0x7E then none
      else if n ≤ 0xFF then some ('\\' :: 'x' :: upperHex 2 n)
      else if n ≤ 0xFFFF then some ('\\' :: 'u' :: upperHex 4 n)
      else some ('\\' :: 'U' :: upperHex 8 n)

/-- Code points in double quotes; `pending` are characters not yet written. A line is broken at a space
or after an escape, by a backslash. -/
def writeDoubleBody (split : Bool) (indent : Nat) :
    (first : Bool) → (pending : List Char) → List Nat → Page → Page
  | _, pending, [], p => p.write pending
  | first, pending, n :: rest, p =>
      let (p, before, after, next, reach) : Page × List Char × List Char × Option Nat × Nat :=
        match escape? n with
        | some e => ((p.write pending).write e, [], [], rest.head?, p.column + pending.length + e.length - 1)
        | none => (p, pending, [Char.ofNat n], some n, p.column + pending.length)
      let breaks := split && !first && !rest.isEmpty && (n == 0x20 || before.isEmpty) &&
        Page.width < reach
      if breaks then
        let p := ((p.write (before ++ ['\\'])).goTo indent).settle
        let p := if next == some 0x20 then p.write ['\\'] else p
        writeDoubleBody split indent false after rest p
      else writeDoubleBody split indent false (before ++ after) rest p

def writeDouble (split : Bool) (indent : Nat) (codes : List Nat) (p : Page) : Page :=
  (writeDoubleBody split indent true [] codes (p.spacedMark ['"'])).mark ['"']

def writeLines (indent : Nat) (lines : List (List Char)) (p : Page) : Page :=
  lines.foldl (fun p line => ((p.goTo indent).write line).lineBreak) (p.spacedMark ['|']).lineBreak

/-- How a scalar is to be written: its tag, its text, and the lines of a block if it is one. -/
structure Form where
  tag : Tag
  content : Text
  lines : Option (List (List Char)) := none

def tagText (t : Tag) : List Char :=
  match Tag.core.find? fun x => x.2 = t with
  | some (name, _) => "!!".toList ++ name.toList
  | none => []

def Form.readsPlain (f : Form) : Bool :=
  match f.content with
  | .proper s => Tag.ofPlain s = f.tag && allowsPlain s.toList
  | .ill _ _ => false

def Form.isMultiline (f : Form) : Bool :=
  f.lines.isSome ||
    match f.content with
    | .proper s => s.toList.any isBreak
    | .ill codes _ => codes.any fun n => isBreak (Char.ofNat n)

def Form.isSimpleKey (f : Form) : Bool :=
  (tagText f.tag).length + f.content.length < 128 && 0 < f.content.length && !f.isMultiline

/-- Writes a scalar, plain where that reads back, else in single quotes, else in double quotes with
everything outside printable ASCII escaped; `split` allows it to go over several lines. -/
def Form.write (f : Form) (split : Bool) (indent : Nat) (p : Page) : Page :=
  let tagged (p : Page) : Page := if f.tag = .text then p else p.spacedMark (tagText f.tag)
  match f.lines with
  | some lines => writeLines indent lines (tagged p)
  | none =>
      match f.content with
      | .ill codes _ => writeDouble split indent codes (tagged p)
      | .proper s =>
          if f.readsPlain then writePlain split indent s.toList p
          else if allowsSingle s.toList && f.tag != .binary then
            writeSingle split indent s.toList (tagged p)
          else writeDouble split indent (s.toList.map Char.toNat) (tagged p)

end Handover.Yaml.Printer
