import Handover.Proofs.Consumer.Receive

namespace Handover

inductive SourceCall where
  | loadConfig
  | loadSettings
  | commit
  deriving DecidableEq, Repr

structure CallNote where
  call : SourceCall
  returned : Bool
  deriving DecidableEq, Repr

/-- A state beside the calls that a source has had; the source cannot change these. -/
structure Noted (σ : Type) where
  state : σ
  calls : List CallNote := []

namespace Source

variable {σ ε α : Type}

def note (call : SourceCall) (x : Action (Noted σ) ε α) : Action (Noted σ) ε α :=
  fun s => ⟨(x s).value, ⟨(x s).state.state, s.calls ++ [⟨call, (x s).value.isOk⟩]⟩, (x s).journal⟩

def noted (source : Source (Noted σ)) : Source (Noted σ) where
  loadConfig := note .loadConfig source.loadConfig
  loadSettings environment := note .loadSettings (source.loadSettings environment)
  commit := note .commit source.commit

structure InOrder (calls : List CallNote) : Prop where
  ordered : calls.map CallNote.call <+: [.loadConfig, .loadSettings, .commit]
  settings : .loadSettings ∈ calls.map CallNote.call → ⟨.loadConfig, true⟩ ∈ calls
  commit : .commit ∈ calls.map CallNote.call →
    ⟨.loadConfig, true⟩ ∈ calls ∧ ⟨.loadSettings, true⟩ ∈ calls

theorem inOrder_nil : InOrder [] := by
  constructor <;> simp

theorem inOrder_config (returned : Bool) : InOrder [⟨.loadConfig, returned⟩] := by
  constructor <;> simp

theorem inOrder_settings (returned : Bool) :
    InOrder [⟨.loadConfig, true⟩, ⟨.loadSettings, returned⟩] := by
  constructor <;> simp

theorem inOrder_commit (returned : Bool) :
    InOrder [⟨.loadConfig, true⟩, ⟨.loadSettings, true⟩, ⟨.commit, returned⟩] := by
  constructor <;> simp

end Source

namespace Consumer

variable {σ : Type}

def handOver (source : Source σ) (environment : Provider σ) : Action σ Fault Outcome := do
  let config ← source.loadConfig
  let settings ← source.loadSettings environment
  source.commit
  pure { config, settings := some settings }

inductive HandOverEnds (source : Source σ) (environment : Provider σ) (s : σ) :
    Except Fault Outcome → σ → Prop where
  | config {e t} (config : source.loadConfig.Ends s (.error e) t) :
      HandOverEnds source environment s (.error e) t
  | settings {c e t u} (config : source.loadConfig.Ends s (.ok c) t)
      (settings : (source.loadSettings environment).Ends t (.error e) u) :
      HandOverEnds source environment s (.error e) u
  | commit {c x e t u v} (config : source.loadConfig.Ends s (.ok c) t)
      (settings : (source.loadSettings environment).Ends t (.ok x) u)
      (commit : source.commit.Ends u (.error e) v) : HandOverEnds source environment s (.error e) v
  | done {c x t u v} (config : source.loadConfig.Ends s (.ok c) t)
      (settings : (source.loadSettings environment).Ends t (.ok x) u)
      (commit : source.commit.Ends u (.ok ()) v) :
      HandOverEnds source environment s (.ok { config := c, settings := some x }) v

theorem HandOverEnds.ends {source : Source σ} {environment : Provider σ} {s t : σ}
    {value : Except Fault Outcome} (h : HandOverEnds source environment s value t) :
    (handOver source environment).Ends s value t := by
  cases h with
  | config config => exact config.bind_error _
  | settings config settings => exact config.bind (settings.bind_error _)
  | commit config settings commit => exact config.bind (settings.bind (commit.bind_error _))
  | done config settings commit =>
      exact config.bind (settings.bind (commit.bind (Action.ends _ _)))

theorem handOver_ends (source : Source σ) (environment : Provider σ) (s : σ) :
    HandOverEnds source environment s (handOver source environment s).value
      (handOver source environment s).state := by
  have ended {value t} (h : HandOverEnds source environment s value t) :
      HandOverEnds source environment s (handOver source environment s).value
        (handOver source environment s).state := by
    rwa [h.ends.value, h.ends.state]
  have config := Action.ends source.loadConfig s
  generalize (source.loadConfig s).value = c, (source.loadConfig s).state = t at config
  cases c with
  | error e => exact ended (.config config)
  | ok c =>
      have settings := Action.ends (source.loadSettings environment) t
      generalize (source.loadSettings environment t).value = x,
        (source.loadSettings environment t).state = u at settings
      cases x with
      | error e => exact ended (.settings config settings)
      | ok x =>
          have commit := Action.ends source.commit u
          generalize (source.commit u).value = k, (source.commit u).state = v at commit
          cases k with
          | error e => exact ended (.commit config settings commit)
          | ok _ => exact ended (.done config settings commit)

/-- An action on a boot ends as another one does on its site, and leaves the claim as it is. -/
def Follows {α : Type} (x : Action (Boot σ) Fault α) (y : Action σ Fault α) : Prop :=
  ∀ b, (x b).value = (y b.site).value ∧ (x b).state = ⟨b.consumed, (y b.site).state⟩

section

variable {α β : Type} {x : Action (Boot σ) Fault α} {y : Action σ Fault α}

theorem follows_pure (a : α) : Follows (pure a : Action (Boot σ) Fault α) (pure a) :=
  fun _ => ⟨rfl, rfl⟩

theorem follows_onSite (y : Action σ Fault α) : Follows (onSite y) y :=
  fun _ => ⟨rfl, rfl⟩

theorem Follows.bind (h : Follows x y) {f : α → Action (Boot σ) Fault β}
    {g : α → Action σ Fault β} (hf : ∀ a, Follows (f a) (g a)) :
    Follows (x >>= f) (y >>= g) := by
  intro b
  obtain ⟨value, state⟩ := h b
  cases hy : (y b.site).value with
  | error e =>
      obtain ⟨value', state'⟩ := Action.bind_of_error (value.trans hy) f
      obtain ⟨value'', state''⟩ := Action.bind_of_error hy g
      exact ⟨value'.trans value''.symm, by rw [state', state'', state]⟩
  | ok a =>
      obtain ⟨value', state'⟩ := Action.bind_of_ok (value.trans hy) f
      obtain ⟨value'', state''⟩ := Action.bind_of_ok hy g
      rw [value', state', value'', state'', state]
      exact hf a _

theorem Follows.after {log : Action (Boot σ) Fault Unit} {journal : List Event}
    (tells : Action.Tells log journal) {f : Unit → Action (Boot σ) Fault α} (h : Follows (f ()) y) :
    Follows (log >>= f) y := by
  intro b
  rw [tells.then]
  exact h b

end

theorem claim_bind_unclaimed {α : Type} {b : Boot σ} (h : b.consumed = false)
    (f : Unit → Action (Boot σ) Fault α) :
    ((claim >>= f) b).value = (f () ⟨true, b.site⟩).value ∧
      ((claim >>= f) b).state = (f () ⟨true, b.site⟩).state := by
  rw [Action.bind_of_eq (claim_unclaimed h)]
  exact ⟨rfl, rfl⟩

theorem claim_bind_claimed {α : Type} {b : Boot σ} (h : b.consumed = true)
    (f : Unit → Action (Boot σ) Fault α) :
    ((claim >>= f) b).value = .error .consumed ∧ ((claim >>= f) b).state = b := by
  have refused : claim b = ⟨.error .consumed, b, []⟩ := by simp [claim, h]
  have bound := Action.bind_of_error (x := claim) (e := .consumed) (by rw [refused]) f
  rwa [refused] at bound

theorem pull_unclaimed (source : Source σ) (environment : Provider σ) {b : Boot σ}
    (h : b.consumed = false) :
    (pull source environment b).value = (handOver source environment b.site).value ∧
      (pull source environment b).state = ⟨true, (handOver source environment b.site).state⟩ := by
  rw [pull, (claim_bind_unclaimed h _).1, (claim_bind_unclaimed h _).2]
  refine (follows_onSite source.loadConfig).bind (fun config => ?_) ⟨true, b.site⟩
  refine .after (tells_logConfig config) ?_
  refine (follows_onSite (source.loadSettings environment)).bind fun settings => ?_
  refine .after (tells_logSettings settings) ?_
  exact (follows_onSite source.commit).bind fun _ => follows_pure _

inductive Request where
  | run
  | receive (config settings : Bytes)

def answer (c : Consumer σ) : Request → Action (Boot σ) Fault Outcome
  | .run => c.run
  | .receive config settings => receive config settings

def Reaches (c : Consumer σ) : Request → Prop
  | .run => c.source ≠ none ∧ c.environment ≠ none
  | .receive _ _ => True

variable {c : Consumer σ} {r : Request} {b : Boot σ}

theorem answer_unready (h : ¬ c.Reaches r) (b : Boot σ) :
    (c.answer r b).value = .error .unready ∧ (c.answer r b).state = b := by
  cases r with
  | receive config settings => exact absurd trivial h
  | run =>
      obtain ⟨source, environment⟩ := c
      cases source with
      | none => exact ⟨rfl, rfl⟩
      | some source =>
          cases environment with
          | none => exact ⟨rfl, rfl⟩
          | some environment => exact absurd ⟨nofun, nofun⟩ h

theorem answer_run (source : Source σ) (environment : Provider σ) :
    (⟨some source, some environment⟩ : Consumer σ).answer .run = pull source environment :=
  rfl

theorem answer_claimed (h : c.Reaches r) (claimed : b.consumed = true) :
    (c.answer r b).value = .error .consumed ∧ (c.answer r b).state = b := by
  cases r with
  | receive config settings => exact claim_bind_claimed claimed _
  | run =>
      obtain ⟨_ | source, _ | environment⟩ := c
      · exact absurd rfl h.1
      · exact absurd rfl h.1
      · exact absurd rfl h.2
      · exact claim_bind_claimed claimed _

theorem state_receive (config settings : Bytes) (unclaimed : b.consumed = false) :
    (receive config settings b).state = ⟨true, b.site⟩ := by
  obtain ⟨consumed, site⟩ := b
  cases unclaimed
  rw [receive_unclaimed]

theorem consumed_answer (h : c.Reaches r) (unclaimed : b.consumed = false) :
    (c.answer r b).state.consumed = true := by
  cases r with
  | receive config settings => rw [answer, state_receive config settings unclaimed]
  | run =>
      obtain ⟨_ | source, _ | environment⟩ := c
      · exact absurd rfl h.1
      · exact absurd rfl h.1
      · exact absurd rfl h.2
      · rw [answer_run, (pull_unclaimed source environment unclaimed).2]

structure Exchange (σ : Type) where
  request : Request
  before : Boot σ
  result : Result (Boot σ) Fault Outcome

def Exchange.claims (e : Exchange σ) : Bool :=
  !e.before.consumed && e.result.state.consumed

structure Exchange.Refused (e : Exchange σ) : Prop where
  fault : ∃ f, e.result.value = .error f ∧ f.isMigration = true
  state : e.result.state = e.before

def exchanges (c : Consumer σ) : List Request → Boot σ → List (Exchange σ)
  | [], _ => []
  | r :: rest, b => ⟨r, b, c.answer r b⟩ :: c.exchanges rest (c.answer r b).state

def after (c : Consumer σ) : List Request → Boot σ → Boot σ
  | [], b => b
  | r :: rest, b => c.after rest (c.answer r b).state

theorem Exchange.Refused.claims {e : Exchange σ} (h : e.Refused) : e.claims = false := by
  simp [Exchange.claims, h.state]

theorem refused_unready (h : ¬ c.Reaches r) (b : Boot σ) :
    Exchange.Refused ⟨r, b, c.answer r b⟩ := by
  obtain ⟨value, state⟩ := answer_unready h b
  exact ⟨⟨_, value, rfl⟩, state⟩

theorem refused_claimed (claimed : b.consumed = true) :
    Exchange.Refused ⟨r, b, c.answer r b⟩ := by
  by_cases h : c.Reaches r
  · obtain ⟨value, state⟩ := answer_claimed h claimed
    exact ⟨⟨_, value, rfl⟩, state⟩
  · exact refused_unready h b

theorem claims_iff (c : Consumer σ) (r : Request) (b : Boot σ) :
    Exchange.claims ⟨r, b, c.answer r b⟩ = true ↔ b.consumed = false ∧ c.Reaches r := by
  by_cases h : c.Reaches r
  · cases claimed : b.consumed with
    | true => simp [(refused_claimed (c := c) claimed).claims]
    | false => simp [Exchange.claims, claimed, consumed_answer h claimed, h]
  · simp [(refused_unready h b).claims, h]

theorem of_mem_exchanges {rs : List Request} {e : Exchange σ} (h : e ∈ c.exchanges rs b) :
    ∃ r b', e = ⟨r, b', c.answer r b'⟩ := by
  induction rs generalizing b with
  | nil => cases h
  | cons r rest ih =>
      cases h with
      | head => exact ⟨r, b, rfl⟩
      | tail _ later => exact ih later

theorem exchanges_claimed (claimed : b.consumed = true) (rs : List Request) :
    ∀ e ∈ c.exchanges rs b, e.Refused := by
  induction rs with
  | nil => simp [exchanges]
  | cons r rest ih =>
      have refused := refused_claimed (c := c) (r := r) claimed
      have same : (c.answer r b).state = b := refused.state
      rw [exchanges, same, List.forall_mem_cons]
      exact ⟨refused, ih⟩

theorem pairwise_exchanges (c : Consumer σ) (rs : List Request) (b : Boot σ) :
    (c.exchanges rs b).Pairwise fun e later => e.claims = true → later.Refused := by
  induction rs generalizing b with
  | nil => exact .nil
  | cons r rest ih =>
      refine .cons (fun later mem claims => ?_) (ih _)
      have taken : (c.answer r b).state.consumed = true := by
        simp only [Exchange.claims, Bool.and_eq_true] at claims
        exact claims.2
      exact exchanges_claimed taken rest later mem

theorem countP_claims_le (c : Consumer σ) (rs : List Request) (b : Boot σ) :
    (c.exchanges rs b).countP Exchange.claims ≤ 1 := by
  induction rs generalizing b with
  | nil => exact Nat.zero_le 1
  | cons r rest ih =>
      rw [exchanges, List.countP_cons]
      split
      · next claims =>
          have none : (c.exchanges rest (c.answer r b).state).countP Exchange.claims = 0 := by
            rw [List.countP_eq_zero]
            intro later mem
            have refused := List.rel_of_pairwise_cons (pairwise_exchanges c (r :: rest) b) mem claims
            simp [refused.claims]
          omega
      · exact ih _

def noted (c : Consumer (Noted σ)) : Consumer (Noted σ) :=
  { c with source := c.source.map Source.noted }

theorem reaches_noted {c : Consumer (Noted σ)} {r : Request} : c.noted.Reaches r ↔ c.Reaches r := by
  cases r with
  | run => simp [Reaches, noted]
  | receive config settings => exact Iff.rfl

theorem calls_note {call : SourceCall} {α : Type} {x : Action (Noted σ) Fault α} {s t : Noted σ}
    {value : Except Fault α} (h : (Source.note call x).Ends s value t) :
    t.calls = s.calls ++ [⟨call, value.isOk⟩] := by
  rw [← h.state, ← h.value]
  rfl

theorem inOrder_handOver (source : Source (Noted σ)) (environment : Provider (Noted σ)) {s : Noted σ}
    (fresh : s.calls = []) :
    Source.InOrder (handOver source.noted environment s).state.calls := by
  have ends := handOver_ends source.noted environment s
  generalize (handOver source.noted environment s).value = value,
    (handOver source.noted environment s).state = state at ends ⊢
  cases ends with
  | config config =>
      rw [calls_note config, fresh]
      exact Source.inOrder_config false
  | settings config settings =>
      rw [calls_note settings, calls_note config, fresh]
      exact Source.inOrder_settings false
  | commit config settings commit =>
      rw [calls_note commit, calls_note settings, calls_note config, fresh]
      exact Source.inOrder_commit false
  | done config settings commit =>
      rw [calls_note commit, calls_note settings, calls_note config, fresh]
      exact Source.inOrder_commit true

structure Sound (b : Boot (Noted σ)) : Prop where
  unclaimed : b.consumed = false → b.site.calls = []
  inOrder : Source.InOrder b.site.calls

theorem sound_answer (c : Consumer (Noted σ)) (r : Request) {b : Boot (Noted σ)} (h : Sound b) :
    Sound (c.noted.answer r b).state := by
  by_cases reaches : c.Reaches r
  · cases claimed : b.consumed with
    | true =>
        have same := (answer_claimed (reaches_noted.2 reaches) claimed).2
        rwa [same]
    | false =>
        have fresh := h.unclaimed claimed
        cases r with
        | receive config settings =>
            rw [answer, state_receive config settings claimed]
            exact ⟨nofun, h.inOrder⟩
        | run =>
            obtain ⟨_ | source, _ | environment⟩ := c
            · exact absurd rfl reaches.1
            · exact absurd rfl reaches.1
            · exact absurd rfl reaches.2
            · rw [noted, Option.map_some, answer_run, (pull_unclaimed _ _ claimed).2]
              exact ⟨nofun, inOrder_handOver source environment fresh⟩
  · have same := (answer_unready (mt reaches_noted.1 reaches) b).2
    rwa [same]

theorem sound_after (c : Consumer (Noted σ)) (rs : List Request) {b : Boot (Noted σ)} (h : Sound b) :
    Sound (c.noted.after rs b) := by
  induction rs generalizing b with
  | nil => exact h
  | cons r rest ih => exact ih (sound_answer c r h)

def opened (site : σ) : Boot (Noted σ) :=
  { site := { state := site } }

theorem sound_opened (site : σ) : Sound (opened site) :=
  ⟨fun _ => rfl, Source.inOrder_nil⟩

theorem claimed_once (c : Consumer (Noted σ)) (site : σ) (rs : List Request) :
    (c.noted.exchanges rs (opened site)).countP Exchange.claims ≤ 1 ∧
    (∀ e ∈ c.noted.exchanges rs (opened site),
      e.claims = true ↔ e.before.consumed = false ∧ c.Reaches e.request) ∧
    (∀ e ∈ c.noted.exchanges rs (opened site),
      e.request = .run → c.source = none ∨ c.environment = none → e.Refused) ∧
    ((c.noted.exchanges rs (opened site)).Pairwise
      fun e later => e.claims = true → later.Refused) ∧
    Source.InOrder (c.noted.after rs (opened site)).site.calls := by
  refine ⟨countP_claims_le _ _ _, fun e mem => ?_, fun e mem run absent => ?_,
    pairwise_exchanges _ _ _, (sound_after c rs (sound_opened site)).inOrder⟩
  · obtain ⟨r, b, rfl⟩ := of_mem_exchanges mem
    rw [claims_iff, reaches_noted]
  · obtain ⟨r, b, rfl⟩ := of_mem_exchanges mem
    cases run
    refine refused_unready (fun reaches => ?_) b
    obtain ⟨source, environment⟩ := reaches_noted.1 reaches
    exact absent.elim source environment

def failing : Source (Noted Unit) where
  loadConfig := pure none
  loadSettings _ := Action.fail (.unavailable (.source "no settings"))
  commit := pure ()

example :
    ((⟨some failing, some ⟨fun _ => pure none⟩⟩ : Consumer (Noted Unit)).noted.after
      [.run, .receive [] [], .run] (opened ())).site.calls =
        [⟨.loadConfig, true⟩, ⟨.loadSettings, false⟩] :=
  rfl

end Consumer

end Handover
