import Mathlib.Data.List.Forall2

/-!
# Computations that may fail

When a sequence of `Except` steps succeeds, and when a fallible loop is the pure loop in disguise.
A loop with one result per input is a pointwise relation between two lists.
-/

namespace Rastreo

open List

variable {ε α β σ : Type}

@[simp] lemma ok_bind (a : α) (f : α → Except ε β) : (Except.ok a >>= f) = f a := rfl

@[simp] lemma error_bind (e : ε) (f : α → Except ε β) :
    ((Except.error e : Except ε α) >>= f) = .error e := rfl

variable {f : α → Except ε β} {x : Except ε α} {b : β}

lemma bind_eq_ok : (x >>= f) = .ok b ↔ ∃ a, x = .ok a ∧ f a = .ok b := by
  cases x with
  | ok a => simp
  | error e => simp

lemma bind_unit_eq_ok {x : Except ε Unit} {f : Unit → Except ε β} :
    (x >>= f) = .ok b ↔ x = .ok () ∧ f () = .ok b := by
  cases x with
  | ok a => simp
  | error e => simp

lemma map_eq_ok {f : α → β} : x.map f = .ok b ↔ ∃ a, x = .ok a ∧ f a = b := by
  cases x with
  | ok a => simp [Except.map]
  | error e => simp [Except.map]

/-- An injective function on the results is injective on the computations. -/
lemma map_injective {f : α → β} (hf : f.Injective) : (Except.map f : Except ε α → _).Injective := by
  intro x y hxy
  cases x with
  | ok a =>
    obtain ⟨b, rfl, hab⟩ := map_eq_ok.mp hxy.symm
    rw [hf hab]
  | error e =>
    cases y with
    | ok b => cases hxy
    | error e' => exact congrArg Except.error (Except.error.inj hxy)

variable {p : α → Except ε Bool}

lemma anyM_ok (h : ∀ a, ∃ b, p a = .ok b) (l : List α) : ∃ b, l.anyM p = .ok b := by
  induction l with
  | nil => exact ⟨false, rfl⟩
  | cons a l ih =>
    obtain ⟨b, hb⟩ := h a
    rw [List.anyM, hb, ok_bind]
    cases b with
    | true => exact ⟨true, rfl⟩
    | false => exact ih

lemma anyM_eq_any {q : α → Bool} (h : ∀ a, p a = .ok (q a)) (l : List α) :
    l.anyM p = .ok (l.any q) := by
  induction l with
  | nil => rfl
  | cons a l ih =>
    rw [List.anyM, h a, ok_bind, any_cons]
    cases q a with
    | true => rfl
    | false => exact ih

variable {l : List α}

lemma foldlM_ok {f : σ → α → Except ε σ} {g : σ → α → σ} (h : ∀ s, ∀ x ∈ l, f s x = .ok (g s x))
    (s : σ) : l.foldlM f s = .ok (l.foldl g s) := by
  induction l generalizing s with
  | nil => rfl
  | cons x l ih => simp_all

lemma foldlM_exists_ok {f : σ → α → Except ε σ} (h : ∀ s, ∀ x ∈ l, ∃ s', f s x = .ok s') (s : σ) :
    ∃ s', l.foldlM f s = .ok s' := by
  induction l generalizing s with
  | nil => exact ⟨s, rfl⟩
  | cons x l ih =>
    obtain ⟨s', hs'⟩ := h s x mem_cons_self
    rw [foldlM_cons, hs', ok_bind]
    simp_all

lemma mapM_append_eq_ok {m : List α} {r : List β} : (l ++ m).mapM f = .ok r ↔
      ∃ a b, l.mapM f = .ok a ∧ m.mapM f = .ok b ∧ r = a ++ b := by
  rw [mapM_append]
  constructor
  · intro h
    obtain ⟨a, ha, h⟩ := bind_eq_ok.mp h
    obtain ⟨b, hb, h⟩ := bind_eq_ok.mp h
    exact ⟨a, b, ha, hb, (Except.ok.inj h).symm⟩
  · rintro ⟨a, b, ha, hb, rfl⟩
    rw [ha, hb]
    rfl

lemma mapM_ok (h : ∀ x ∈ l, ∃ y, f x = .ok y) : ∃ m, l.mapM f = .ok m := by
  induction l with
  | nil => exact ⟨[], rfl⟩
  | cons x l ih =>
    obtain ⟨y, hy⟩ := h x mem_cons_self
    obtain ⟨m, hm⟩ := ih fun z hz => h z (mem_cons_of_mem x hz)
    simp_all

lemma mapM_eq_map {g : α → β} (h : ∀ x ∈ l, f x = .ok (g x)) : l.mapM f = .ok (l.map g) := by
  induction l with
  | nil => rfl
  | cons x l ih => simp_all

lemma mapM_congr {g : α → Except ε β} (h : ∀ x ∈ l, f x = g x) : l.mapM f = l.mapM g := by
  induction l with
  | nil => rfl
  | cons x l ih =>
    rw [mapM_cons, mapM_cons, h x mem_cons_self,
      ih fun y hy => h y (mem_cons_of_mem x hy)]

variable {m : List β}

lemma forall₂_of_mapM_ok (h : l.mapM f = .ok m) : List.Forall₂ (fun x y => f x = .ok y) l m := by
  induction l generalizing m with
  | nil =>
    obtain rfl := Except.ok.inj h
    exact .nil
  | cons x l ih =>
    rw [mapM_cons] at h
    obtain ⟨y, hy, h⟩ := bind_eq_ok.mp h
    obtain ⟨m', hm', h⟩ := bind_eq_ok.mp h
    obtain rfl := Except.ok.inj h
    exact .cons hy (ih hm')

lemma forM_eq_find? {f : α → Except ε Unit} {p : α → Bool} {g : α → ε}
    (h : ∀ x, f x = if p x then .error (g x) else .ok ()) :
    l.forM f = (l.find? p).elim (.ok ()) (fun x => .error (g x)) := by
  induction l with
  | nil => rfl
  | cons x l ih =>
    change (f x >>= fun _ => l.forM f) = _
    rw [h x, find?_cons]
    cases p x with
    | true => rfl
    | false => exact ih

variable {R : α → β → Prop} {a : α}

lemma exists_right_of_mem (h : List.Forall₂ R l m) (ha : a ∈ l) : ∃ b ∈ m, R a b := by
  induction h with
  | nil => exact absurd ha not_mem_nil
  | cons hab _ ih =>
    rcases mem_cons.mp ha with rfl | ha
    · grind
    · grind

lemma exists_left_of_mem (h : List.Forall₂ R l m) (hb : b ∈ m) : ∃ a ∈ l, R a b := by
  induction h with
  | nil => exact absurd hb not_mem_nil
  | cons hab _ ih =>
    rcases mem_cons.mp hb with rfl | hb
    · grind
    · grind

@[simp] lemma mapError_eq_ok {ε' : Type} {f : ε → ε'} : x.mapError f = .ok a ↔ x = .ok a := by
  cases x with
  | ok b => simp [Except.mapError]
  | error e => simp [Except.mapError]

lemma toOption_join_eq_some {x : Except ε (Option α)} :
    x.toOption.join = some a ↔ x = .ok (some a) := by
  cases x with
  | ok r => simp [Except.toOption]
  | error e => simp [Except.toOption]

lemma map_eq_map_of_forall₂ {δ γ : Type} {S : α → γ → Prop} {f : β → δ} {g : γ → δ} {n : List γ}
    (hm : List.Forall₂ R l m) (hn : List.Forall₂ S l n) (h : ∀ a b c, R a b → S a c → f b = g c) :
    m.map f = n.map g := by
  induction hm generalizing n with
  | nil =>
    cases hn
    rfl
  | cons hab _ ih =>
    cases hn with
    | cons hac hrest => rw [map_cons, map_cons, h _ _ _ hab hac, ih hrest]

lemma forall₂_iff_forall_mem {P : α → β → Prop} {Q : α → Prop}
    (h : List.Forall₂ (fun a b => P a b ↔ Q a) l m) : List.Forall₂ P l m ↔ ∀ a ∈ l, Q a := by
  induction h with
  | nil => simp
  | cons hhead _ ih => simp_all

lemma getElem?_right_of_left (h : List.Forall₂ R l m) {k : ℕ} (ha : l[k]? = some a) :
    ∃ b, m[k]? = some b ∧ R a b := by
  induction h generalizing k with
  | nil => exact absurd ha (by simp)
  | cons hab _ ih => grind

lemma getElem?_left_of_right (h : List.Forall₂ R l m) {k : ℕ} (hb : m[k]? = some b) :
    ∃ a, l[k]? = some a ∧ R a b := by
  obtain ⟨a, ha, hR⟩ := getElem?_right_of_left h.flip hb
  exact ⟨a, ha, hR⟩

end Rastreo
