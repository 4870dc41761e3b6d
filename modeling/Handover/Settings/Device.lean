import Handover.Settings.Provider

namespace Handover

inductive DeviceCall where
  | connect
  | shell (command : String)
  deriving DecidableEq, Repr

/-- How a device behaves after the calls so far: it answers with a text, or fails with one. -/
structure Device where
  connect : List DeviceCall → Except String String
  shell : List DeviceCall → (command : String) → Except String String

structure DeviceLink where
  held : Bool := false
  calls : List DeviceCall := []
  deriving DecidableEq, Repr

namespace Device

def command (key : String) : String :=
  "settings get global " ++ key

/-- What the device prints for a key that was never written. -/
def unset : String := "null"

def serialText (serial : Value) : Text :=
  if serial.truthy then serial.plain else .proper "<default>"

def hold (d : Device) (serial : Value) : Action DeviceLink Unavailable Unit :=
  fun link =>
    if link.held then ⟨.ok (), link, []⟩
    else
      let calls := link.calls ++ [.connect]
      match d.connect link.calls with
      | .error text => ⟨.error (.connect (serialText serial) text), ⟨false, calls⟩, []⟩
      | .ok name => ⟨.ok (), ⟨true, calls⟩, [.logged .debug ("Connected to device " ++ name)]⟩

def ask (d : Device) (key : String) : Action DeviceLink Unavailable String :=
  fun link =>
    let next := { link with calls := link.calls ++ [.shell (command key)] }
    match d.shell link.calls (command key) with
    | .error text => ⟨.error (.reading key text), next, []⟩
    | .ok output => ⟨.ok output, next, []⟩

def value? (output : String) : Option Text :=
  let text := Text.trim output
  if text = "" ∨ text = unset then none else some (.proper text)

def provider (d : Device) (serial : Value) : Provider DeviceLink where
  getString key := do
    d.hold serial
    let output ← d.ask key
    pure (value? output)

def display (serial : Value) : String :=
  "<AdbSettingsProvider serial=" ++ serial.quoted ++ ">"

end Device

end Handover
