import Handover.Proofs.Action
import Handover.Settings.Device

namespace Handover

inductive ProviderCall where
  | string (key : String)
  | int (key : String) (default : Int)
  | load

inductive ProviderAnswer where
  | string (found : Option Text)
  | int (n : Int)
  | snapshot (x : SettingsSnapshot)

def ProviderCall.keys : ProviderCall → List String
  | .string key => [key]
  | .int key _ => [key]
  | .load => Setting.all.map Setting.key

namespace Provider

variable {σ : Type}

def answer (p : Provider σ) : ProviderCall → Action σ Unavailable ProviderAnswer
  | .string key => do
      let found ← p.getString key
      pure (.string found)
  | .int key default => do
      let n ← p.getInt key default
      pure (.int n)
  | .load => do
      let x ← p.load
      pure (.snapshot x)

structure Exchange (σ : Type) where
  call : ProviderCall
  before : σ
  result : Result σ Unavailable ProviderAnswer

def exchanges (p : Provider σ) : List ProviderCall → σ → List (Exchange σ)
  | [], _ => []
  | call :: rest, s => ⟨call, s, p.answer call s⟩ :: p.exchanges rest (p.answer call s).state

def after (p : Provider σ) : List ProviderCall → σ → σ
  | [], s => s
  | call :: rest, s => p.after rest (p.answer call s).state

end Provider

namespace Device

variable {α β : Type} {d : Device} {serial : Value} {handed : Bool}

def readHeld (d : Device) (key : String) : Action DeviceLink Unavailable (Option Text) := do
  let output ← d.ask key
  pure (value? output)

theorem getString_eq (d : Device) (serial : Value) (key : String) :
    (d.provider serial).getString key = d.hold serial >>= fun _ => readHeld d key :=
  rfl

section

variable {held : Bool} {calls : List DeviceCall} {key text output name : String}

theorem hold_held (d : Device) (serial : Value) (calls : List DeviceCall) :
    d.hold serial ⟨true, calls⟩ = ⟨.ok (), ⟨true, calls⟩, []⟩ :=
  rfl

theorem hold_refused (failed : d.connect calls = .error text) :
    d.hold serial ⟨false, calls⟩ =
      ⟨.error (.connect (serialText serial) text), ⟨false, calls ++ [.connect]⟩, []⟩ := by
  simp [hold, failed]

theorem hold_connected (replied : d.connect calls = .ok name) :
    d.hold serial ⟨false, calls⟩ =
      ⟨.ok (), ⟨true, calls ++ [.connect]⟩,
        [.logged .debug ("Connected to device " ++ name)]⟩ := by
  simp [hold, replied]

theorem readHeld_refused (failed : d.shell calls (command key) = .error text) :
    readHeld d key ⟨held, calls⟩ =
      ⟨.error (.reading key text), ⟨held, calls ++ [.shell (command key)]⟩, []⟩ := by
  simp only [readHeld, Action.bind_apply, ask, failed]

theorem readHeld_answered (replied : d.shell calls (command key) = .ok output) :
    readHeld d key ⟨held, calls⟩ =
      ⟨.ok (value? output), ⟨held, calls ++ [.shell (command key)]⟩, []⟩ := by
  simp only [readHeld, Action.bind_apply, ask, replied]
  rfl

end

def Connected (d : Device) (handed : Bool) (calls : List DeviceCall) : Prop :=
  handed = true ∨
    ∃ earlier later name, calls = earlier ++ .connect :: later ∧ d.connect earlier = .ok name

/-- The calls by which keys are read after earlier calls, and the failure that stops them. -/
inductive Reads (d : Device) (serial : Value) (handed : Bool) :
    List String → (before new : List DeviceCall) → Option Unavailable → Prop where
  | done {before} : Reads d serial handed [] before [] none
  | unreachable {key rest before text} (free : ¬ Connected d handed before)
      (failed : d.connect before = .error text) :
      Reads d serial handed (key :: rest) before [.connect]
        (some (.connect (serialText serial) text))
  | connected {key rest before name new stop} (free : ¬ Connected d handed before)
      (replied : d.connect before = .ok name)
      (later : Reads d serial handed (key :: rest) (before ++ [.connect]) new stop) :
      Reads d serial handed (key :: rest) before (.connect :: new) stop
  | refused {key rest before text} (held : Connected d handed before)
      (failed : d.shell before (command key) = .error text) :
      Reads d serial handed (key :: rest) before [.shell (command key)]
        (some (.reading key text))
  | answered {key rest before output new stop} (held : Connected d handed before)
      (replied : d.shell before (command key) = .ok output)
      (later : Reads d serial handed rest (before ++ [.shell (command key)]) new stop) :
      Reads d serial handed (key :: rest) before (.shell (command key) :: new) stop

def commandsIn (calls : List DeviceCall) : List String :=
  calls.filterMap fun call =>
    match call with
    | .connect => none
    | .shell command => some command

def fault? : Except Unavailable α → Option Unavailable
  | .ok _ => none
  | .error e => some e

/-- A call of the provider and the calls `new` by which it asks the device. -/
structure Disciplined (d : Device) (serial : Value) (handed : Bool)
    (e : Provider.Exchange DeviceLink) (new : List DeviceCall) : Prop where
  calls : e.result.state.calls = e.before.calls ++ new
  reads : Reads d serial handed e.call.keys e.before.calls new (fault? e.result.value)
  ordered : commandsIn new <+: e.call.keys.map command
  complete : fault? e.result.value = none → commandsIn new = e.call.keys.map command

def ConnectsFree (d : Device) (handed : Bool) (calls : List DeviceCall) : Prop :=
  ∀ earlier later, calls = earlier ++ .connect :: later → ¬ Connected d handed earlier

theorem connected_concat {calls : List DeviceCall} {call : DeviceCall} :
    Connected d handed (calls ++ [call]) ↔
      Connected d handed calls ∨ (call = .connect ∧ ∃ name, d.connect calls = .ok name) := by
  constructor
  · rintro (held | ⟨earlier, later, name, split, replied⟩)
    · exact .inl (.inl held)
    · rcases List.eq_nil_or_concat later with rfl | ⟨later, last, rfl⟩
      · obtain ⟨rfl, same⟩ := List.append_inj' split rfl
        cases same
        exact .inr ⟨rfl, name, replied⟩
      · rw [List.concat_eq_append, ← List.cons_append, ← List.append_assoc] at split
        obtain ⟨rfl, -⟩ := List.append_inj' split rfl
        exact .inl (.inr ⟨earlier, later, name, rfl, replied⟩)
  · rintro ((held | ⟨earlier, later, name, rfl, replied⟩) | ⟨rfl, name, replied⟩)
    · exact .inl held
    · exact .inr ⟨earlier, later ++ [call], name, by simp, replied⟩
    · exact .inr ⟨calls, [], name, rfl, replied⟩

theorem connectsFree_nil : ConnectsFree d handed [] := by
  intro earlier later split
  simp at split

theorem ConnectsFree.concat {calls : List DeviceCall} (h : ConnectsFree d handed calls)
    {call : DeviceCall} (free : call = .connect → ¬ Connected d handed calls) :
    ConnectsFree d handed (calls ++ [call]) := by
  intro earlier later split
  rcases List.eq_nil_or_concat later with rfl | ⟨later, last, rfl⟩
  · obtain ⟨rfl, same⟩ := List.append_inj' split rfl
    cases same
    exact free rfl
  · rw [List.concat_eq_append, ← List.cons_append, ← List.append_assoc] at split
    obtain ⟨rfl, -⟩ := List.append_inj' split rfl
    exact h earlier later rfl

namespace Reads

variable {keys keys' : List String} {before new new' : List DeviceCall} {e : Unavailable}
  {stop : Option Unavailable}

theorem append (h : Reads d serial handed keys before new none)
    (h' : Reads d serial handed keys' (before ++ new) new' stop) :
    Reads d serial handed (keys ++ keys') before (new ++ new') stop := by
  -- how the reading stopped is an index, which the induction needs as a variable
  generalize ended : none = found at h
  induction h with
  | done => simpa using h'
  | unreachable => cases ended
  | connected free replied later ih => exact .connected free replied (ih (by simpa using h') ended)
  | refused => cases ended
  | answered held replied later ih => exact .answered held replied (ih (by simpa using h') ended)

theorem stopped (h : Reads d serial handed keys before new (some e)) (later : List String) :
    Reads d serial handed (keys ++ later) before new (some e) := by
  generalize ended : some e = found at h ⊢
  induction h with
  | done => cases ended
  | unreachable free failed => exact .unreachable free failed
  | connected free replied next ih => exact .connected free replied (ih ended)
  | refused held failed => exact .refused held failed
  | answered held replied next ih => exact .answered held replied (ih ended)

theorem commands_prefix (h : Reads d serial handed keys before new stop) :
    commandsIn new <+: keys.map command := by
  induction h with
  | done => exact List.prefix_rfl
  | unreachable => exact List.nil_prefix
  | connected free replied later ih => exact ih
  | refused => simp [commandsIn]
  | answered held replied later ih => simpa [commandsIn] using ih

theorem commands_eq (h : Reads d serial handed keys before new none) :
    commandsIn new = keys.map command := by
  generalize ended : none = found at h
  induction h with
  | done => rfl
  | unreachable => cases ended
  | connected free replied later ih => exact ih ended
  | refused => cases ended
  | answered held replied later ih => simpa [commandsIn] using ih ended

theorem connectsFree (h : Reads d serial handed keys before new stop)
    (earlier : ConnectsFree d handed before) : ConnectsFree d handed (before ++ new) := by
  induction h with
  | done => simpa using earlier
  | unreachable free => exact earlier.concat fun _ => free
  | connected free replied later ih =>
      simpa using ih (earlier.concat fun _ => free)
  | refused => exact earlier.concat nofun
  | answered held replied later ih =>
      simpa using ih (earlier.concat nofun)

end Reads

def Tracks (d : Device) (handed : Bool) (link : DeviceLink) : Prop :=
  link.held = true ↔ Connected d handed link.calls

def Asks (d : Device) (serial : Value) (handed : Bool) (keys : List String)
    (x : Action DeviceLink Unavailable α) : Prop :=
  ∀ link, Tracks d handed link → Tracks d handed (x link).state ∧
    ∃ new, (x link).state.calls = link.calls ++ new ∧
      Reads d serial handed keys link.calls new (fault? (x link).value)

theorem asks_pure (a : α) : Asks d serial handed [] (pure a) :=
  fun _ tracks => ⟨tracks, [], by simp [Action.pure_apply], .done⟩

theorem asks_log (level : Level) (text : String) :
    Asks d serial handed [] (Action.log level text) :=
  fun _ tracks => ⟨tracks, [], by simp [Action.log], .done⟩

theorem Asks.bind {keys keys' : List String} {x : Action DeviceLink Unavailable α}
    {f : α → Action DeviceLink Unavailable β} (hx : Asks d serial handed keys x)
    (hf : ∀ a, Asks d serial handed keys' (f a)) :
    Asks d serial handed (keys ++ keys') (x >>= f) := by
  intro link tracks
  obtain ⟨tracks, new, calls, reads⟩ := hx link tracks
  cases value : (x link).value with
  | error e =>
      obtain ⟨value', state⟩ := Action.bind_of_error value f
      rw [value', state]
      rw [value] at reads
      exact ⟨tracks, new, calls, reads.stopped keys'⟩
  | ok a =>
      obtain ⟨value', state⟩ := Action.bind_of_ok value f
      rw [value', state]
      rw [value] at reads
      obtain ⟨tracks, new', calls', reads'⟩ := hf a _ tracks
      rw [calls] at calls' reads'
      exact ⟨tracks, new ++ new', by rw [calls', List.append_assoc], reads.append reads'⟩

theorem Asks.cons {key : String} {keys : List String} {x : Action DeviceLink Unavailable α}
    {f : α → Action DeviceLink Unavailable β} (hx : Asks d serial handed [key] x)
    (hf : ∀ a, Asks d serial handed keys (f a)) : Asks d serial handed (key :: keys) (x >>= f) :=
  hx.bind hf

theorem Tracks.shell {calls : List DeviceCall} (h : Tracks d handed ⟨true, calls⟩)
    (command : String) : Tracks d handed ⟨true, calls ++ [.shell command]⟩ := by
  have held : Connected d handed calls := h.1 rfl
  exact iff_of_true rfl (connected_concat.2 (.inl held))

theorem Tracks.connect {calls : List DeviceCall} (h : Tracks d handed ⟨false, calls⟩) :
    Tracks d handed ⟨(d.connect calls).isOk, calls ++ [.connect]⟩ := by
  -- nothing was held, so only the connection that is tried now can have given a device
  have free : ¬ Connected d handed calls := fun held => nomatch h.2 held
  rw [Tracks, connected_concat]
  cases d.connect calls <;> simp [free, Except.isOk, Except.toBool]

theorem asks_readHeld {calls : List DeviceCall} (tracks : Tracks d handed ⟨true, calls⟩)
    (serial : Value) (key : String) :
    Tracks d handed (readHeld d key ⟨true, calls⟩).state ∧
      ∃ new, (readHeld d key ⟨true, calls⟩).state.calls = calls ++ new ∧
        Reads d serial handed [key] calls new (fault? (readHeld d key ⟨true, calls⟩).value) := by
  have held : Connected d handed calls := tracks.1 rfl
  cases replied : d.shell calls (command key) with
  | error text =>
      rw [readHeld_refused replied]
      exact ⟨tracks.shell _, _, rfl, .refused held replied⟩
  | ok output =>
      rw [readHeld_answered replied]
      exact ⟨tracks.shell _, _, rfl, .answered held replied .done⟩

theorem asks_getString (key : String) :
    Asks d serial handed [key] ((d.provider serial).getString key) := by
  rintro ⟨held, calls⟩ tracks
  rw [getString_eq]
  cases held with
  | true =>
      rw [Action.bind_of_eq (hold_held d serial calls)]
      exact asks_readHeld tracks serial key
  | false =>
      have free : ¬ Connected d handed calls := fun held => nomatch tracks.2 held
      have next := tracks.connect
      cases replied : d.connect calls with
      | error text =>
          rw [replied] at next
          rw [Action.bind_apply, hold_refused replied]
          exact ⟨next, _, rfl, .unreachable free replied⟩
      | ok name =>
          rw [replied] at next
          rw [Action.bind_of_eq (hold_connected replied)]
          obtain ⟨tracks, new, calls', reads⟩ := asks_readHeld next serial key
          exact ⟨tracks, _, by rw [calls', List.append_assoc]; rfl, .connected free replied reads⟩

theorem asks_getInt (key : String) (default : Int) :
    Asks d serial handed [key] ((d.provider serial).getInt key default) := by
  refine (asks_getString key).cons fun found => ?_
  cases found with
  | none => exact asks_pure default
  | some raw =>
      dsimp only
      split
      · exact asks_pure _
      · exact (asks_log _ _).bind fun _ => asks_pure default

theorem asks_getFlag (s : Setting) (default : Bool) :
    Asks d serial handed [s.key] ((d.provider serial).getFlag s default) :=
  (asks_getInt _ _).cons fun _ => asks_pure _

theorem asks_load :
    Asks d serial handed (Setting.all.map Setting.key) (d.provider serial).load := by
  simp only [Setting.all, List.map_cons, List.map_nil, Provider.load]
  refine (asks_getFlag _ _).cons fun _ => (asks_getFlag _ _).cons fun _ => ?_
  refine (asks_getString _).cons fun _ => (asks_getFlag _ _).cons fun _ => ?_
  refine (asks_getFlag _ _).cons fun _ => (asks_getFlag _ _).cons fun _ => ?_
  refine (asks_getFlag _ _).cons fun _ => ?_
  exact (asks_log _ _).bind fun _ => asks_pure _

theorem asks_answer (serial : Value) (call : ProviderCall) :
    Asks d serial handed call.keys ((d.provider serial).answer call) := by
  cases call with
  | string key => exact (asks_getString key).cons fun _ => asks_pure _
  | int key default => exact (asks_getInt key default).cons fun _ => asks_pure _
  | load =>
      rw [ProviderCall.keys, ← List.append_nil (Setting.all.map Setting.key)]
      exact asks_load.bind fun x => asks_pure (ProviderAnswer.snapshot x)

variable {link : DeviceLink} {calls : List ProviderCall}

theorem disciplined_answer (tracks : Tracks d handed link) (call : ProviderCall) :
    ∃ new, Disciplined d serial handed ⟨call, link, (d.provider serial).answer call link⟩ new := by
  obtain ⟨-, new, calls, reads⟩ := asks_answer serial call link tracks
  refine ⟨new, calls, reads, reads.commands_prefix, ?_⟩
  intro complete
  rw [complete] at reads
  exact reads.commands_eq

theorem disciplined_exchanges (tracks : Tracks d handed link) :
    ∀ e ∈ (d.provider serial).exchanges calls link, ∃ new, Disciplined d serial handed e new := by
  induction calls generalizing link with
  | nil => simp [Provider.exchanges]
  | cons call rest ih =>
      rw [Provider.exchanges, List.forall_mem_cons]
      exact ⟨disciplined_answer tracks call, ih (asks_answer serial call link tracks).1⟩

theorem connectsFree_after (tracks : Tracks d handed link) (free : ConnectsFree d handed link.calls) :
    ConnectsFree d handed ((d.provider serial).after calls link).calls := by
  induction calls generalizing link with
  | nil => exact free
  | cons call rest ih =>
      obtain ⟨tracks, new, calls, reads⟩ := asks_answer serial call link tracks
      apply ih tracks
      rw [calls]
      exact reads.connectsFree free

theorem tracks_opened (d : Device) (handed : Bool) : Tracks d handed ⟨handed, []⟩ := by
  simp [Tracks, Connected]

theorem calls_disciplined (d : Device) (serial : Value) (handed : Bool)
    (calls : List ProviderCall) :
    (∀ e ∈ (d.provider serial).exchanges calls ⟨handed, []⟩,
        ∃ new, Disciplined d serial handed e new) ∧
      ConnectsFree d handed ((d.provider serial).after calls ⟨handed, []⟩).calls :=
  ⟨disciplined_exchanges (tracks_opened d handed),
    connectsFree_after (tracks_opened d handed) connectsFree_nil⟩

end Device

end Handover
