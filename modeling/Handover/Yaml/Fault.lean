import Handover.Calendar
import Handover.Text.Encoding

namespace Handover.Yaml

/-- Why a document cannot be read. Most faults are of one kind, whose wording is left open; the others
come from its bytes, and from single values that do not denote what their tag says. -/
inductive Fault where
  | malformed
  | notText (e : Text.Utf8.Fault)
  | codePoint (n : Nat)
  | calendar (e : CalendarFault)
  | notTimestamp
  /-- A mapping stands where the text of a date is to be. -/
  | notDateText
  | notFlag (text : Text)
  | emptyNumber
  | notInteger (base : Nat) (text : Text)
  | tooManyDigits (count : Nat)
  | notFloat (text : Text)
  | overflow
  /-- An integer that was read has more digits than a text of it may have. -/
  | unshown
  deriving DecidableEq, Repr

def byteText (b : UInt8) : String :=
  "0x" ++ String.ofList (Text.Quoted.hexDigits 2 b.toNat)

def notTextMessage (e : Text.Utf8.Fault) : String :=
  if e.start + 1 = e.stop then
    "'utf-8' codec can't decode byte " ++ byteText e.first ++ " in position " ++
      toString e.start ++ ": " ++ e.reason
  else
    "'utf-8' codec can't decode bytes in position " ++ toString e.start ++ "-" ++
      toString (e.stop - 1) ++ ": " ++ e.reason

def Fault.message : Fault → String
  | malformed => "[YAMLError]"
  | notText e => notTextMessage e
  | codePoint n =>
      if 0x80000000 ≤ n then "Python int too large to convert to C int"
      else "chr() arg not in range(0x110000)"
  | calendar e => e.message
  | notTimestamp => "'NoneType' object has no attribute 'groupdict'"
  | notDateText => "expected string or bytes-like object, got 'list'"
  | notFlag text => text.quoted
  | emptyNumber => "string index out of range"
  | notInteger base text =>
      s!"invalid literal for int() with base {base}: " ++
        String.ofList (text.quoted.toList.take 200)
  | tooManyDigits count =>
      s!"Exceeds the limit (4300 digits) for integer string conversion: value has {count} digits; " ++
        "use sys.set_int_max_str_digits() to increase the limit"
  | unshown =>
      "Exceeds the limit (4300 digits) for integer string conversion; " ++
        "use sys.set_int_max_str_digits() to increase the limit"
  | notFloat text => "could not convert string to float: " ++ text.quoted
  | overflow => "int too large to convert to float"

end Handover.Yaml
