import Handover.Text.Encoding

namespace Handover.Json

def escapeChar (c : Char) : List Char :=
  if c == '"' then ['\\', '"']
  else if c == '\\' then ['\\', '\\']
  else if c == '\x08' then ['\\', 'b']
  else if c == '\t' then ['\\', 't']
  else if c == '\n' then ['\\', 'n']
  else if c == '\x0c' then ['\\', 'f']
  else if c == '\r' then ['\\', 'r']
  else if c.toNat < 0x20 then '\\' :: 'u' :: Text.Quoted.hexDigits 4 c.toNat
  else [c]

def quote (cs : List Char) : List Char :=
  '"' :: cs.flatMap escapeChar ++ ['"']

def bool (b : Bool) : List Char :=
  if b then "true".toList else "false".toList

def nat (n : Nat) : List Char :=
  Nat.toDigits 10 n

def optional (write : α → List Char) : Option α → List Char
  | none => "null".toList
  | some a => write a

def text? : Option Text → Except EncodingFault (List Char)
  | none => .ok "null".toList
  | some t => t.string.map fun s => quote s.toList

def memberList : List (String × List Char) → List Char
  | [] => ['\x7d']
  | [(name, text)] => quote name.toList ++ ':' :: text ++ ['\x7d']
  | (name, text) :: rest => quote name.toList ++ ':' :: text ++ ',' :: memberList rest

def object (members : List (String × List Char)) : List Char :=
  '\x7b' :: memberList members

end Handover.Json
