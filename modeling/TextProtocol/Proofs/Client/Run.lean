import TextProtocol.Client.Exchange

/-!
# How runs of clients end

A computation of a client ends with a result or an error, and with a changed network. `Ends` says
both at once, and there is one equation for each way in which computations are put together, so that
what a call does is found by going through its steps.
-/

namespace TextProtocol.Client

variable {ε α β : Type} {net : Network} {Q Q' : α → Network → Prop} {E E' : ε → Network → Prop}

/-- Whether a run from a network ends with a result and a network as in `Q`, or with an error and a
network as in `E`. -/
def Ends (x : ExceptT ε (StateM Network) α) (net : Network) (Q : α → Network → Prop)
    (E : ε → Network → Prop) : Prop :=
  match (x.run.run net : Except ε α × Network) with
  | (.ok a, after) => Q a after
  | (.error e, after) => E e after

theorem Ends.mono {x : ExceptT ε (StateM Network) α} (h : Ends x net Q E)
    (hQ : ∀ a after, Q a after → Q' a after) (hE : ∀ e after, E e after → E' e after) :
    Ends x net Q' E' := by
  rw [Ends] at h ⊢
  revert h
  rcases (x.run.run net : Except ε α × Network) with ⟨r, after⟩
  intro h
  cases r with
  | ok a => exact hQ a after h
  | error e => exact hE e after h

theorem Ends.and {x : ExceptT ε (StateM Network) α} (h : Ends x net Q E) (h' : Ends x net Q' E') :
    Ends x net (fun a after ↦ Q a after ∧ Q' a after) fun e after ↦ E e after ∧ E' e after := by
  rw [Ends] at h h' ⊢
  revert h h'
  rcases (x.run.run net : Except ε α × Network) with ⟨r, after⟩
  intro h h'
  cases r with
  | ok a => exact ⟨h, h'⟩
  | error e => exact ⟨h, h'⟩

/-- What holds of the network however a run ends, holds of the network after it. -/
theorem Ends.after {x : ExceptT ε (StateM Network) α} {P : Network → Prop} (h : Ends x net Q E)
    (hQ : ∀ a after, Q a after → P after) (hE : ∀ e after, E e after → P after) :
    P (x.run.run net).2 := by
  rw [Ends] at h
  revert h
  rcases (x.run.run net : Except ε α × Network) with ⟨r, after⟩
  intro h
  cases r with
  | ok a => exact hQ a after h
  | error e => exact hE e after h

@[simp] theorem ends_pure (a : α) :
    Ends (pure a : ExceptT ε (StateM Network) α) net Q E ↔ Q a net :=
  Iff.rfl

@[simp] theorem ends_throw (e : ε) :
    Ends (throw e : ExceptT ε (StateM Network) α) net Q E ↔ E e net :=
  Iff.rfl

@[simp] theorem ends_bind {x : ExceptT ε (StateM Network) β}
    {f : β → ExceptT ε (StateM Network) α} :
    Ends (x >>= f) net Q E ↔ Ends x net (fun b after ↦ Ends (f b) after Q E) E := by
  have hrun : ((x >>= f).run.run net : Except ε α × Network) =
      match (x.run.run net : Except ε β × Network) with
      | (.ok b, after) => (f b).run.run after
      | (.error e, after) => (.error e, after) := by
    change (match (x.run.run net : Except ε β × Network) with
      | (r, after) => (ExceptT.bindCont f r).run after) = _
    rcases (x.run.run net : Except ε β × Network) with ⟨r, after⟩
    cases r <;> rfl
  rw [Ends, hrun, Ends]
  rcases (x.run.run net : Except ε β × Network) with ⟨r, after⟩
  cases r <;> rfl

@[simp] theorem ends_tryCatch {x : ExceptT ε (StateM Network) α}
    {handle : ε → ExceptT ε (StateM Network) α} :
    Ends (tryCatch x handle) net Q E ↔
      Ends x net Q fun e after ↦ Ends (handle e) after Q E := by
  rcases hx : (x.run.run net : Except ε α × Network) with ⟨r, after⟩
  have hrun : ((tryCatch x handle).run.run net : Except ε α × Network) =
      (tryCatch (ExceptT.mk (pure r)) handle).run.run after := by
    have hstate : StateT.run (x : StateM Network (Except ε α)) net = (r, after) := hx
    simp only [tryCatch, tryCatchThe, MonadExceptOf.tryCatch, ExceptT.tryCatch, ExceptT.run_mk,
      StateT.run_bind, hstate]
    rfl
  rw [Ends, hrun, Ends, hx]
  cases r <;> rfl

@[simp] theorem ends_get {Q : Network → Network → Prop} :
    Ends (get : ExceptT ε (StateM Network) Network) net Q E ↔ Q net net :=
  Iff.rfl

@[simp] theorem ends_withPool (f : Pool → α × Pool) :
    Ends (withPool f) net Q E ↔ Q (f net.pool).1 { net with pool := (f net.pool).2 } :=
  Iff.rfl

@[simp] theorem ends_changePool {Q : Unit → Network → Prop} (f : Pool → Pool) :
    Ends (changePool f) net Q E ↔ Q () { net with pool := f net.pool } :=
  Iff.rfl

@[simp] theorem ends_nextOffer {Q : Offer → Network → Prop} {E : Error → Network → Prop} :
    Ends nextOffer net Q E ↔
      Q (net.offers.head?.getD (.refuse "no more connections"))
        { net with offers := net.offers.tail } :=
  Iff.rfl

@[simp] theorem ends_mk (r : Except ε α) :
    Ends (ExceptT.mk (pure r) : ExceptT ε (StateM Network) α) net Q E ↔
      match r with
      | .ok a => Q a net
      | .error e => E e net := by
  cases r <;> exact Iff.rfl

/-- A run on a connection within a run of a client. -/
@[simp] theorem ends_lift {x : Talk β} {Q : Except Trouble β → Network → Prop} :
    Ends (ExceptT.lift x.run : ExceptT ε (StateM Network) (Except Trouble β)) net Q E ↔
      Ends x net (fun b after ↦ Q (.ok b) after) fun t after ↦ Q (.error t) after := by
  change (match (x.run.run net : Except Trouble β × Network) with
    | (r, after) => Q r after) ↔ _
  rw [Ends]
  rcases (x.run.run net : Except Trouble β × Network) with ⟨r, after⟩
  cases r <;> exact Iff.rfl

end TextProtocol.Client
