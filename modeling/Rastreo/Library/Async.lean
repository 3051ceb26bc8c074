import Mathlib.Logic.Basic

/-!
# Programs that may be dropped

A program over a shared state runs to its end or is dropped at an await; then its local variables
are gone, and the state is that of the await.  `Meets P x Q D`: from a state with `P`, `x` ends in
`Q`, or is dropped at a site and a state in `D`.
-/

namespace Rastreo

/-- How a program ends: with a result, or dropped at an await. -/
inductive Exit (S α : Type) where
  | done (a : α)
  | dropped (site : S)
  deriving DecidableEq

/-- A program over states `W` with await sites `S`. -/
def Async (W S α : Type) : Type := W → Exit S α × W

namespace Async

variable {W S α β : Type}

instance : Monad (Async W S) where
  pure a := fun w => (.done a, w)
  bind x f := fun w =>
    match x w with
    | (.done a, w') => f a w'
    | (.dropped site, w') => (.dropped site, w')

instance : LawfulMonad (Async W S) :=
  .mk' _ (fun x => by
      funext w
      change (match x w with
        | (.done a, w') => (Exit.done (id a), w')
        | (.dropped site, w') => (.dropped site, w')) = x w
      rcases x w with ⟨_ | _, w'⟩ <;> rfl)
    (fun _ _ => rfl)
    (fun x f g => by
      funext w
      change (match (match x w with
          | (.done a, w') => f a w'
          | (.dropped site, w') => (.dropped site, w')) with
        | (.done b, w') => g b w'
        | (.dropped site, w') => (.dropped site, w')) = (match x w with
        | (.done a, w') => (f a >>= g) w'
        | (.dropped site, w') => (.dropped site, w'))
      rcases x w with ⟨_ | _, w'⟩ <;> rfl)

variable {w w' : W} {x : Async W S α} {a : α}

/-- A program goes on from where its first part ends. -/
theorem bind_of_done {f : α → Async W S β} (h : x w = (.done a, w')) : (x >>= f) w = f a w' := by
  change (match x w with
    | (.done a, w') => f a w'
    | (.dropped site, w') => (.dropped site, w')) = _
  rw [h]

/-- A program in two parts ends exactly when both parts do. -/
theorem bind_eq_done {f : α → Async W S β} {b : β} : (x >>= f) w = (.done b, w') ↔
      ∃ a w₁, x w = (.done a, w₁) ∧ f a w₁ = (.done b, w') := by
  constructor
  · intro h
    change (match x w with
      | (.done a, w') => f a w'
      | (.dropped site, w') => (.dropped site, w')) = _ at h
    rcases hx : x w with ⟨a | site, w₁⟩
    · grind
    · rw [hx] at h
      cases h
  · grind [bind_of_done]

def read (f : W → α) : Async W S α := fun w => (.done (f w), w)

def update (f : W → W) : Async W S Unit := fun w => (.done (), f w)

/-! ## Results that may be errors -/

section AndThen

variable {ε γ : Type}

def andThen (x : Async W S (Except ε α)) (f : α → Async W S (Except ε β)) :
    Async W S (Except ε β) :=
  x >>= fun r =>
    match r with
    | .error e => pure (.error e)
    | .ok a => f a

/-- A result at once is passed on. -/
@[simp] theorem pure_ok_andThen (a : α) (f : α → Async W S (Except ε β)) :
    andThen (pure (.ok a)) f = f a := rfl

/-- Three programs in a row. -/
theorem andThen_assoc (x : Async W S (Except ε α)) (f : α → Async W S (Except ε β))
    (g : β → Async W S (Except ε γ)) :
    andThen (andThen x f) g = andThen x fun a => andThen (f a) g := by
  unfold andThen
  rw [bind_assoc]
  congr 1
  funext r
  cases r <;> rfl

/-- A program goes on from where its first part succeeds. -/
theorem andThen_of_done {x : Async W S (Except ε α)} {f : α → Async W S (Except ε β)} {w w' : W}
    (h : x w = (.done (.ok a), w')) : andThen x f w = f a w' := by
  rw [andThen, bind_of_done h]

end AndThen

/-! ## Triples -/

def Meets (P : W → Prop) (x : Async W S α) (Q : α → W → Prop) (D : S → W → Prop) : Prop :=
  ∀ w, P w → match x w with
    | (.done a, w') => Q a w'
    | (.dropped site, w') => D site w'

variable {P P' : W → Prop} {Q Q' : α → W → Prop} {D D' : S → W → Prop}

/-- A result at once. -/
theorem meets_pure (h : ∀ w, P w → Q a w) : Meets P (pure a : Async W S α) Q D :=
  fun w hw => h w hw

variable {f : W → α}

/-- Reading changes nothing. -/
theorem meets_read (h : ∀ w, P w → Q (f w) w) : Meets P (read f) Q D :=
  fun w hw => h w hw

/-- An update of the state. -/
theorem meets_update {f : W → W} {Q : Unit → W → Prop} (h : ∀ w, P w → Q () (f w)) :
    Meets P (update f) Q D :=
  fun w hw => h w hw

variable {R : β → W → Prop}

/-- One program after another; either may be dropped. -/
theorem meets_bind {f : α → Async W S β} (hx : Meets P x Q D) (hf : ∀ a, Meets (Q a) (f a) R D) :
    Meets P (x >>= f) R D := by
  intro w hw
  have hxw := hx w hw
  change match (match x w with
    | (.done a, w') => f a w'
    | (.dropped site, w') => (.dropped site, w') : Exit S β × W) with
    | (.done b, w') => R b w'
    | (.dropped site, w') => D site w'
  rcases hxr : x w with ⟨_ | _, w'⟩
  · rw [hxr] at hxw
    exact hf _ w' hxw
  · rw [hxr] at hxw
    exact hxw

variable {k : α → Async W S β}

/-- An update and a result. -/
theorem meets_update_pure {f : W → W} (h : ∀ w, P w → Q a (f w)) :
    Meets P (update f >>= fun _ => pure a) Q D :=
  meets_bind (meets_update h) fun _ => meets_pure fun _ hw => hw

/-- An update and its continuation. -/
theorem meets_update_bind {I : W → Prop} {f : W → W} {k : Unit → Async W S β}
    (h : ∀ w, P w → I (f w)) (hk : Meets I (k ()) R D) : Meets P (update f >>= k) R D :=
  meets_bind (meets_update h) fun _ => hk

/-- A program that reads first, whatever it reads. -/
theorem meets_read_bind (hk : ∀ a, Meets P (k a) R D) : Meets P (read f >>= k) R D :=
  meets_bind (Q := fun _ => P) (meets_read fun _ hw => hw) hk

/-- A program that reads first, where what it reads is known. -/
theorem meets_read_bind_eq (a : α) (hf : ∀ w, P w → f w = a) (hk : Meets P (k a) R D) :
    Meets P (read f >>= k) R D := by
  refine meets_bind (Q := fun b w => b = a ∧ P w) (meets_read fun w hw => ⟨hf w hw, hw⟩) fun b => ?_
  intro w hw
  obtain ⟨rfl, hw⟩ := hw
  exact hk w hw

/-- A program and its continuation after a success. -/
theorem meets_andThen {ε : Type} {x : Async W S (Except ε α)} {f : α → Async W S (Except ε β)}
    {Q : Except ε α → W → Prop} {R : Except ε β → W → Prop} (hx : Meets P x Q D)
    (herr : ∀ e w, Q (.error e) w → R (.error e) w) (hf : ∀ a, Meets (Q (.ok a)) (f a) R D) :
    Meets P (andThen x f) R D := by
  refine meets_bind hx fun r => ?_
  grind [meets_pure]

/-- A result at once and its continuation after a success. -/
theorem meets_pure_andThen {ε : Type} {r : Except ε α} {f : α → Async W S (Except ε β)}
    {R : Except ε β → W → Prop} (herr : ∀ e, r = .error e → ∀ w, P w → R (.error e) w)
    (hf : ∀ a, r = .ok a → Meets P (f a) R D) : Meets P (andThen (pure r) f) R D := by
  cases r with
  | error e => exact meets_pure (herr e rfl)
  | ok a => exact hf a rfl

/-- A program of which nothing is asked. -/
theorem meets_any (x : Async W S α) : Meets P x (fun _ _ => True) (fun _ _ => True) := by
  intro w _
  grind

/-- Weaken what is known before, at the end and at a drop. -/
theorem Meets.conseq (h : Meets P x Q D) (hP : ∀ w, P' w → P w) (hQ : ∀ a w, Q a w → Q' a w)
    (hD : ∀ site w, D site w → D' site w) : Meets P' x Q' D' := by
  intro w hw
  have hx := h w (hP w hw)
  rcases hxr : x w with ⟨_ | _, w'⟩
  · rw [hxr] at hx
    exact hQ _ _ hx
  · grind

/-- Weaken what is known before. -/
theorem Meets.pre (h : Meets P x Q D) (hP : ∀ w, P' w → P w) : Meets P' x Q D :=
  h.conseq hP (fun _ _ h => h) fun _ _ h => h

/-- Weaken what is known at the end. -/
theorem Meets.post (h : Meets P x Q D) (hQ : ∀ a w, Q a w → Q' a w) : Meets P x Q' D :=
  h.conseq (fun _ h => h) hQ fun _ _ h => h

/-- Weaken what is known at a drop. -/
theorem Meets.atDrop (h : Meets P x Q D) (hD : ∀ site w, D site w → D' site w) : Meets P x Q D' :=
  h.conseq (fun _ h => h) (fun _ _ h => h) hD

/-- Two triples for one program. -/
theorem Meets.and (h : Meets P x Q D) (h' : Meets P' x Q' D') :
    Meets (fun w => P w ∧ P' w) x (fun a w => Q a w ∧ Q' a w) (fun s w => D s w ∧ D' s w) := by
  intro w hw
  have hx := h w hw.1
  have hx' := h' w hw.2
  rcases hxr : x w with ⟨_ | _, w'⟩
  · grind
  · grind

theorem meets_of_forall (h : ∀ w₀, P w₀ → Meets (fun w => w = w₀) x Q D) : Meets P x Q D :=
  fun w hw => h w hw w rfl

/-- The triple at a state where the program ends. -/
theorem Meets.of_done (h : Meets P x Q D) (hw : P w) (hx : x w = (.done a, w')) : Q a w' := by
  have := h w hw
  rwa [hx] at this

/-- The triple at a state where the program is dropped. -/
theorem Meets.of_dropped (h : Meets P x Q D) {site : S} (hw : P w)
    (hx : x w = (.dropped site, w')) : D site w' := by
  have := h w hw
  rwa [hx] at this

/-! ## What a program keeps -/

/-- The program keeps `P`, wherever it ends. -/
def Keeps (P : W → Prop) (x : Async W S α) : Prop := Meets P x (fun _ => P) (fun _ => P)

/-- A result at once keeps everything. -/
theorem keeps_pure (a : α) : Keeps P (pure a : Async W S α) := meets_pure fun _ hw => hw

/-- One program after another. -/
theorem keeps_bind {f : α → Async W S β} (hx : Keeps P x) (hf : ∀ a, Keeps P (f a)) :
    Keeps P (x >>= f) :=
  meets_bind hx hf

/-- A program that reads first. -/
theorem keeps_read_bind (hk : ∀ a, Keeps P (k a)) : Keeps P (read f >>= k) :=
  meets_read_bind hk

end Async

end Rastreo
