/-!
# Steps that may fail

* `mapError_eq_ok` — a value does not depend on how faults are seen;
* `bind_eq_ok` — two steps succeed if the first one does, and the second one on what the first one gave;
* `Ensures`, `FailsWith` — what is known of the value of a step and of its faults;
* `Leads` — the same for a step from one state to another;
* `Keeps` — a step that keeps what is known of the state.
-/

namespace DeclSplit

variable {ε σ τ : Type}

/-- A value does not depend on how faults are seen. -/
theorem mapError_eq_ok {ε' : Type} {f : ε → ε'} {x : Except ε σ} {s : σ} :
    x.mapError f = .ok s ↔ x = .ok s := by
  cases x with
  | error e => exact iff_of_false nofun nofun
  | ok t => exact ⟨fun h => Except.ok.inj h ▸ rfl, fun h => Except.ok.inj h ▸ rfl⟩

/-- Two steps succeed if the first one does, and the second one on what the first one gave. -/
theorem bind_eq_ok {f : σ → Except ε τ} {x : Except ε σ} {t : τ} :
    (x >>= f) = .ok t ↔ ∃ s, x = .ok s ∧ f s = .ok t := by
  cases x <;> simp [bind, Except.bind]

/-! ### Values and faults -/

/-- A step gives a value with one property, or it fails with a fault that has another. -/
def Ensures (fault : ε → Prop) (value : σ → Prop) : Except ε σ → Prop
  | .ok s => value s
  | .error e => fault e

/-- A step fails with no other faults than those with a property. -/
abbrev FailsWith (fault : ε → Prop) (x : Except ε σ) : Prop :=
  Ensures fault (fun _ => True) x

theorem failsWith_any (x : Except ε σ) : FailsWith (fun _ => True) x := by
  cases x <;> trivial

namespace Ensures

variable {P : ε → Prop} {Q : σ → Prop} {R : τ → Prop} {x : Except ε σ}

theorem bind {f : σ → Except ε τ} (hx : Ensures P Q x) (hf : ∀ s, Q s → Ensures P R (f s)) :
    Ensures P R (x >>= f) := by
  cases x with
  | ok s => exact hf s hx
  | error e => exact hx

theorem mapError {ε' : Type} {P' : ε' → Prop} {f : ε → ε'} (hx : Ensures P Q x)
    (hf : ∀ e, P e → P' (f e)) : Ensures P' Q (x.mapError f) := by
  cases x with
  | ok s => exact hx
  | error e => exact hf e hx

theorem mono {P' : ε → Prop} {Q' : σ → Prop} (hx : Ensures P Q x) (hfault : ∀ e, P e → P' e)
    (hvalue : ∀ s, Q s → Q' s) : Ensures P' Q' x := by
  cases x with
  | ok s => exact hvalue s hx
  | error e => exact hfault e hx

theorem ite {c : Prop} [Decidable c] {y : Except ε σ} (hx : Ensures P Q x) (hy : Ensures P Q y) :
    Ensures P Q (if c then x else y) := by
  split
  next => exact hx
  next => exact hy

/-- A step that is taken unless another one fails first. -/
theorem guarded {c : Prop} [Decidable c] {stop : Except ε PUnit} (hstop : FailsWith P stop)
    (hx : Ensures P Q x) : Ensures P Q (if c then stop >>= fun _ => x else x) :=
  ite (hstop.bind fun _ _ => hx) hx

end Ensures

theorem FailsWith.bind {P : ε → Prop} {R : τ → Prop} {x : Except ε σ} {f : σ → Except ε τ}
    (hx : FailsWith P x) (hf : ∀ s, Ensures P R (f s)) : Ensures P R (x >>= f) :=
  Ensures.bind hx fun s _ => hf s

/-- The faults of a list that is read item by item are those of the items. -/
theorem FailsWith.mapM {fault : ε → Prop} {f : σ → Except ε τ} (h : ∀ s, FailsWith fault (f s))
    (items : List σ) : FailsWith fault (items.mapM f) := by
  induction items with
  | nil => exact trivial
  | cons item items ih =>
    rw [List.mapM_cons]
    exact (h item).bind fun _ => ih.bind fun _ => trivial

theorem FailsWith.foldlM {fault : ε → Prop} {f : τ → σ → Except ε τ}
    (h : ∀ t s, FailsWith fault (f t s)) (items : List σ) (start : τ) :
    FailsWith fault (items.foldlM f start) := by
  induction items generalizing start with
  | nil => exact trivial
  | cons item items ih =>
    rw [List.foldlM_cons]
    exact (h start item).bind ih

/-! ### Steps with a state -/

variable {ρ : Type}

/-- From a state with one property a step leads to a value and a state with another, or it fails with a
fault that has a third. -/
def Leads (P : ε → Prop) (I : ρ → Prop) (J : σ → ρ → Prop) (m : StateT ρ (Except ε) σ) : Prop :=
  ∀ s, I s → Ensures P (fun r => J r.1 r.2) (m s)

/-- A step keeps a property of the state, or it fails with a fault that has another one. -/
abbrev Keeps (P : ε → Prop) (I : ρ → Prop) (m : StateT ρ (Except ε) σ) : Prop :=
  Leads P I (fun _ => I) m

namespace Leads

variable {P : ε → Prop} {I : ρ → Prop} {J : σ → ρ → Prop} {K : τ → ρ → Prop}
  {m m' : StateT ρ (Except ε) σ}

theorem pure {a : σ} (h : ∀ s, I s → J a s) : Leads P I J (Pure.pure a) :=
  h

theorem throw {e : ε} (h : ∀ s, I s → P e) : Leads P I J (MonadExcept.throw e) :=
  h

theorem modify {change : ρ → ρ} {J : PUnit → ρ → Prop} (h : ∀ s, I s → J PUnit.unit (change s)) :
    Leads P I J (modify change) :=
  h

theorem bind {f : σ → StateT ρ (Except ε) τ} (hm : Leads P I J m) (hf : ∀ a, Leads P (J a) K (f a)) :
    Leads P I K (m >>= f) :=
  fun s hs => (hm s hs).bind fun r hr => hf r.1 r.2 hr

theorem mono {I' : ρ → Prop} {J' : σ → ρ → Prop} (hm : Leads P I J m) (hstart : ∀ s, I' s → I s)
    (hend : ∀ a s, J a s → J' a s) : Leads P I' J' m :=
  fun s hs => (hm s (hstart s hs)).mono (fun _ => id) fun r => hend r.1 r.2

/-- What is known apart from the state can be taken out of what is known of it. -/
theorem given {p : Prop} (h : p → Leads P I J m) : Leads P (fun s => p ∧ I s) J m :=
  fun s hs => h hs.1 s hs.2

theorem ite {c : Prop} [Decidable c] (hm : Leads P I J m) (hm' : Leads P I J m') :
    Leads P I J (if c then m else m') := by
  split
  next => exact hm
  next => exact hm'

theorem guarded {c : Prop} [Decidable c] {stop : StateT ρ (Except ε) PUnit} (hstop : Keeps P I stop)
    (hm : Leads P I J m) : Leads P I J (if c then stop >>= fun _ => m else m) :=
  ite (hstop.bind fun _ => hm) hm

end Leads

namespace Keeps

variable {P : ε → Prop} {I : ρ → Prop}

theorem pure (a : σ) : Keeps P I (Pure.pure a : StateT ρ (Except ε) σ) :=
  fun _ hs => hs

theorem of_get : Keeps P I (get : StateT ρ (Except ε) ρ) :=
  fun _ hs => hs

theorem mapM {f : τ → StateT ρ (Except ε) σ} (h : ∀ item, Keeps P I (f item)) (items : List τ) :
    Keeps P I (items.mapM f) := by
  induction items with
  | nil => exact Keeps.pure []
  | cons item items ih =>
    rw [List.mapM_cons]
    exact (h item).bind fun _ => ih.bind fun _ => Keeps.pure _

theorem mapM_option {f : τ → StateT ρ (Except ε) σ} (h : ∀ item, Keeps P I (f item))
    (item? : Option τ) : Keeps P I (item?.mapM f) := by
  cases item? with
  | none => exact Keeps.pure none
  | some item => exact (h item).bind fun _ => Keeps.pure _

theorem forM {f : τ → StateT ρ (Except ε) PUnit} (h : ∀ item, Keeps P I (f item))
    (items : List τ) : Keeps P I (items.forM f) := by
  induction items with
  | nil => exact Keeps.pure PUnit.unit
  | cons item items ih => exact (h item).bind fun _ => ih

end Keeps

end DeclSplit
