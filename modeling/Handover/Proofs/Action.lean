import Handover.Action

namespace Handover.Action

variable {σ τ ε δ α β : Type}

theorem bind_of_error {x : Action σ ε α} {s : σ} {e : ε} (h : (x s).value = .error e)
    (f : α → Action σ ε β) :
    ((x >>= f) s).value = .error e ∧ ((x >>= f) s).state = (x s).state := by
  rw [bind_apply]
  generalize x s = r at h ⊢
  obtain ⟨value, t, journal⟩ := r
  cases h
  exact ⟨rfl, rfl⟩

theorem bind_of_ok {x : Action σ ε α} {s : σ} {a : α} (h : (x s).value = .ok a)
    (f : α → Action σ ε β) :
    ((x >>= f) s).value = (f a (x s).state).value ∧
      ((x >>= f) s).state = (f a (x s).state).state := by
  rw [bind_apply]
  generalize x s = r at h ⊢
  obtain ⟨value, t, journal⟩ := r
  cases h
  exact ⟨rfl, rfl⟩

theorem bind_of_eq {x : Action σ ε α} {s t : σ} {a : α} {journal : List Event}
    (h : x s = ⟨.ok a, t, journal⟩) (f : α → Action σ ε β) :
    (x >>= f) s = ⟨(f a t).value, (f a t).state, journal ++ (f a t).journal⟩ := by
  rw [bind_apply, h]

theorem bind_eq_ok {x : Action σ ε α} {f : α → Action σ ε β} {s : σ} {b : β}
    (h : ((x >>= f) s).value = .ok b) :
    ∃ a, (x s).value = .ok a ∧ (f a (x s).state).value = .ok b ∧
      ((x >>= f) s).state = (f a (x s).state).state := by
  cases hx : (x s).value with
  | error e => cases h.symm.trans (bind_of_error hx f).1
  | ok a =>
      obtain ⟨value, state⟩ := bind_of_ok hx f
      exact ⟨a, rfl, value.symm.trans h, state⟩

theorem get_bind (f : σ → Action σ ε α) (s : σ) : (get >>= f) s = f s s :=
  rfl

structure Ends (x : Action σ ε α) (s : σ) (value : Except ε α) (state : σ) : Prop where
  value : (x s).value = value
  state : (x s).state = state

theorem ends (x : Action σ ε α) (s : σ) : Ends x s (x s).value (x s).state :=
  ⟨rfl, rfl⟩

theorem Ends.bind_error {x : Action σ ε α} {s t : σ} {e : ε} (h : Ends x s (.error e) t)
    (f : α → Action σ ε β) : Ends (x >>= f) s (.error e) t := by
  obtain ⟨value, state⟩ := bind_of_error h.value f
  exact ⟨value, state.trans h.state⟩

theorem Ends.bind {x : Action σ ε α} {s t u : σ} {a : α} {f : α → Action σ ε β} {value : Except ε β}
    (h : Ends x s (.ok a) t) (hf : Ends (f a) t value u) : Ends (x >>= f) s value u := by
  obtain ⟨value', state'⟩ := bind_of_ok h.value f
  rw [h.state] at value' state'
  exact ⟨value'.trans hf.value, state'.trans hf.state⟩

theorem mapError_ends (f : ε → δ) (x : Action σ ε α) (s : σ) :
    ((x.mapError f) s).value = (x s).value.mapError f ∧ ((x.mapError f) s).state = (x s).state := by
  rw [mapError]
  rcases x s with ⟨_ | a, t, journal⟩
  · exact ⟨rfl, rfl⟩
  · exact ⟨rfl, rfl⟩

def Keeps (x : Action σ ε α) : Prop :=
  ∀ s, (x s).state = s

theorem keeps_pure (a : α) : Keeps (Pure.pure a : Action σ ε α) :=
  fun _ => rfl

theorem keeps_fail (e : ε) : Keeps (fail e : Action σ ε α) :=
  fun _ => rfl

theorem keeps_log (level : Level) (text : String) : Keeps (log level text : Action σ ε Unit) :=
  fun _ => rfl

theorem state_bind_keeps {x : Action σ ε α} {f : α → Action σ ε β} (hf : ∀ a, Keeps (f a)) (s : σ) :
    ((x >>= f) s).state = (x s).state := by
  rw [bind_apply]
  rcases x s with ⟨_ | a, t, journal⟩
  · rfl
  · exact hf a t

theorem Keeps.bind {x : Action σ ε α} {f : α → Action σ ε β} (hx : Keeps x)
    (hf : ∀ a, Keeps (f a)) : Keeps (x >>= f) := by
  intro s
  rw [state_bind_keeps hf, hx]

theorem state_attempt_bind (x : Action σ ε α) (f : Except ε α → Action σ δ β) (s : σ) :
    ((attempt x >>= f) s).state = (f (x s).value (x s).state).state :=
  rfl

theorem value_attempt_bind (x : Action σ ε α) (f : Except ε α → Action σ δ β) (s : σ) :
    ((attempt x >>= f) s).value = (f (x s).value (x s).state).value :=
  rfl

def Tells (x : Action σ ε Unit) (journal : List Event) : Prop :=
  ∀ s, x s = ⟨.ok (), s, journal⟩

theorem tells_pure : Tells (Pure.pure () : Action σ ε Unit) [] :=
  fun _ => rfl

theorem tells_log (level : Level) (text : String) :
    Tells (log level text : Action σ ε Unit) [.logged level text] :=
  fun _ => rfl

theorem tells_print (line : String) : Tells (print line : Action σ ε Unit) [.printed line] :=
  fun _ => rfl

theorem Tells.bind {x y : Action σ ε Unit} {before after : List Event} (hx : Tells x before)
    (hy : Tells y after) : Tells (x >>= fun _ => y) (before ++ after) := by
  intro s
  rw [bind_of_eq (hx s), hy s]

theorem Tells.then {x : Action σ ε Unit} {journal : List Event} (hx : Tells x journal)
    (f : Unit → Action σ ε α) (s : σ) :
    (x >>= f) s = ⟨(f () s).value, (f () s).state, journal ++ (f () s).journal⟩ :=
  bind_of_eq (hx s) f

theorem Tells.keeps {x : Action σ ε Unit} {journal : List Event} (hx : Tells x journal) :
    Keeps x := by
  intro s
  rw [hx s]

def Respects (R : σ → σ → Prop) (x : Action σ ε α) : Prop :=
  ∀ s, R s (x s).state

theorem Keeps.respects {R : σ → σ → Prop} (h : Equivalence R) {x : Action σ ε α} (hx : Keeps x) :
    Respects R x := by
  intro s
  rw [hx s]
  exact h.refl s

theorem Respects.bind {R : σ → σ → Prop} (h : Equivalence R) {x : Action σ ε α}
    {f : α → Action σ ε β} (hx : Respects R x) (hf : ∀ a, Respects R (f a)) :
    Respects R (x >>= f) := by
  intro s
  cases hv : (x s).value with
  | error e =>
      rw [(bind_of_error hv f).2]
      exact hx s
  | ok a =>
      rw [(bind_of_ok hv f).2]
      exact h.trans (hx s) (hf a _)

structure PartOf (part : σ → τ) (put : τ → σ → σ) : Prop where
  part_put : ∀ t s, part (put t s) = t
  put_part : ∀ s, put (part s) s = s
  put_put : ∀ t u s, put t (put u s) = put t s

variable {part : σ → τ} {put : τ → σ → σ}

theorem zoom_pure (h : PartOf part put) (a : α) :
    zoom part put (Pure.pure a : Action τ ε α) = Pure.pure a := by
  funext s
  simp only [zoom, pure_apply, h.put_part]

theorem zoom_log (h : PartOf part put) (level : Level) (text : String) :
    zoom part put (log level text : Action τ ε Unit) = log level text := by
  funext s
  simp only [zoom, log, h.put_part]

theorem zoom_bind (h : PartOf part put) (x : Action τ ε α) (f : α → Action τ ε β) :
    zoom part put (x >>= f) = zoom part put x >>= fun a => zoom part put (f a) := by
  funext s
  simp only [zoom, bind_apply]
  rcases x (part s) with ⟨_ | a, t, journal⟩
  · rfl
  · simp only [h.part_put, h.put_put]

theorem zoom_mapError (f : ε → δ) (x : Action τ ε α) :
    (zoom part put x).mapError f = zoom part put (x.mapError f) := by
  funext s
  simp only [zoom, mapError]
  rcases x (part s) with ⟨_ | a, t, journal⟩ <;> rfl

end Handover.Action
