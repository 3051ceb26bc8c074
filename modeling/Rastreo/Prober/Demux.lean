import Rastreo.Model.Device
import Mathlib.Data.List.AList

/-!
# The demultiplexer

A probe registers a waiter under a key and holds the receiver of a oneshot channel; the reader
delivers a reply to the waiter of its key.  A waiter leaves the table when it is answered, when a
second probe comes for its key, when the key is deregistered, or when the reader dies.  Channels are
numbers.
-/

namespace Rastreo

open Function

/-- `EngineReply`: what a waiter receives. -/
inductive EngineReply (R : Type) where
  | reached (reply : R)
  | failed (fault : ProbeFault)
  deriving DecidableEq

/-- Nothing is sent yet, a value is, or the sender is gone. -/
inductive Oneshot (α : Type) where
  | empty
  | sent (value : α)
  | closed
  deriving DecidableEq

/-- `Waiter`: its context and the sender of its channel. -/
structure Waiter (C : Type) where
  context : C
  tx : ℕ
  deriving DecidableEq

/-- `Demux`, with the channels it sends on. -/
structure Demux (K C R : Type) [DecidableEq K] where
  waiters : AList fun _ : K => Waiter C
  poison : Option ProbeFault
  channels : ℕ → Oneshot (EngineReply R)

namespace Demux

variable {K C R : Type} [DecidableEq K]

def new : Demux K C R := ⟨∅, none, fun _ => .empty⟩

variable (d : Demux K C R)

def setChannel (tx : ℕ) (c : Oneshot (EngineReply R)) : Demux K C R :=
  { d with channels := Function.update d.channels tx c }

variable (key : K)

def remove : Demux K C R :=
  { d with waiters := d.waiters.erase key }

def duplicateKey : ProbeFault := ⟨.other, "duplicate demux key — engine cannot correlate"⟩

/-- `Demux::register`, on a new channel `tx`. -/
def register (context : C) (tx : ℕ) : Demux K C R :=
  match d.poison with
  | some fault => d.setChannel tx (.sent (.failed fault))
  | none =>
    match d.waiters.lookup key with
    | some existing =>
      ((d.remove key).setChannel existing.tx (.sent (.failed duplicateKey))).setChannel tx
        (.sent (.failed duplicateKey))
    | none =>
      { d with waiters := d.waiters.insert key ⟨context, tx⟩ }.setChannel tx .empty

def context : Option C := (d.waiters.lookup key).map Waiter.context

def dispatch (reply : EngineReply R) : Demux K C R :=
  match d.waiters.lookup key with
  | some waiter => (d.remove key).setChannel waiter.tx (.sent reply)
  | none => d

/-- The sender is dropped, whoever holds the receiver. -/
def deregister : Demux K C R :=
  match d.waiters.lookup key with
  | some waiter => (d.remove key).setChannel waiter.tx .closed
  | none => d

/-- The first fault is kept and sent to every waiter. -/
def poisonWith (fault : ProbeFault) : Demux K C R :=
  if d.poison.isSome then d
  else
    d.waiters.entries.foldl (fun d w => d.setChannel w.2.tx (.sent (.failed fault)))
      { d with waiters := ∅, poison := some fault }

/-! ## Waiters and channels -/

@[simp] lemma waiters_setChannel (tx : ℕ) (c : Oneshot (EngineReply R)) :
    (d.setChannel tx c).waiters = d.waiters := rfl

@[simp] lemma channels_setChannel (tx : ℕ) (c : Oneshot (EngineReply R)) :
    (d.setChannel tx c).channels = Function.update d.channels tx c := rfl

@[simp] lemma waiters_remove : (d.remove key).waiters = d.waiters.erase key := rfl

@[simp] lemma channels_remove : (d.remove key).channels = d.channels := rfl

/-- Of the channels handed out: a waiter is in the table exactly as long as nothing has happened to
its channel. -/
structure Tracks (keyOf : ℕ → Option K) : Prop where
  key_of_waiter : ∀ {key w}, d.waiters.lookup key = some w → keyOf w.tx = some key
  empty_of_waiter : ∀ {key w}, d.waiters.lookup key = some w → d.channels w.tx = .empty
  waiter_of_empty : ∀ {tx key}, keyOf tx = some key → d.channels tx = .empty →
    ∃ w, d.waiters.lookup key = some w ∧ w.tx = tx
  empty_of_poison : d.poison ≠ none → ∀ key, d.waiters.lookup key = none

lemma tracks_new : (new : Demux K C R).Tracks fun _ => none where
  key_of_waiter h := by simp [new] at h
  empty_of_waiter h := by simp [new] at h
  waiter_of_empty h := by simp at h
  empty_of_poison h := by simp [new] at h

variable {d : Demux K C R} {keyOf : ℕ → Option K} {key : K} {w : Waiter C}
  {c : Oneshot (EngineReply R)}

/-- It leaves the table as something happens to its channel. -/
lemma Tracks.settle (h : d.Tracks keyOf) (hw : d.waiters.lookup key = some w) (hc : c ≠ .empty) :
    ((d.remove key).setChannel w.tx c).Tracks keyOf := by
  have hother : ∀ {key' w'}, (d.waiters.erase key).lookup key' = some w' →
      d.waiters.lookup key' = some w' ∧ w'.tx ≠ w.tx := by
    intro key' w' hw'
    have hne : key' ≠ key := by
      rintro rfl
      simp at hw'
    rw [AList.lookup_erase_ne hne] at hw'
    refine ⟨hw', fun htx => hne ?_⟩
    have hkey := h.key_of_waiter hw'
    rw [htx, h.key_of_waiter hw] at hkey
    grind
  refine ⟨fun hw' => h.key_of_waiter (hother hw').1, fun hw' => ?_,
    fun {tx key'} hkey hempty => ?_, fun hpoison => ?_⟩
  · obtain ⟨hlookup, hne⟩ := hother hw'
    simpa [update_of_ne hne] using h.empty_of_waiter hlookup
  · have hne : tx ≠ w.tx := by
      rintro rfl
      simp [hc] at hempty
    rw [channels_setChannel, channels_remove, update_of_ne hne] at hempty
    obtain ⟨w', hw', rfl⟩ := h.waiter_of_empty hkey hempty
    have hkey_ne : key' ≠ key := by
      rintro rfl
      grind
    simp_all
  · rw [h.empty_of_poison hpoison] at hw
    cases hw

lemma Tracks.dispatch (h : d.Tracks keyOf) (key : K) (reply : EngineReply R) :
    (d.dispatch key reply).Tracks keyOf := by
  unfold Demux.dispatch
  split
  · next w hw => exact h.settle hw (by simp)
  · exact h

lemma Tracks.deregister (h : d.Tracks keyOf) (key : K) : (d.deregister key).Tracks keyOf := by
  unfold Demux.deregister
  split
  · next w hw => exact h.settle hw (by simp)
  · exact h

variable {tx : ℕ}

lemma Tracks.answered (h : d.Tracks keyOf) (htx : keyOf tx = none) (key : K) (hc : c ≠ .empty) :
    (d.setChannel tx c).Tracks (Function.update keyOf tx (some key)) := by
  have hne : ∀ {key' w}, d.waiters.lookup key' = some w → w.tx ≠ tx := by
    rintro key' w hw rfl
    rw [h.key_of_waiter hw] at htx
    cases htx
  refine ⟨fun hw => ?_, fun hw => ?_, fun {tx' key'} hkey hempty => ?_, h.empty_of_poison⟩
  · rw [update_of_ne (hne hw)]
    exact h.key_of_waiter hw
  · rw [channels_setChannel, update_of_ne (hne hw)]
    exact h.empty_of_waiter hw
  · have htx' : tx' ≠ tx := by
      rintro rfl
      simp [hc] at hempty
    rw [update_of_ne htx'] at hkey
    rw [channels_setChannel, update_of_ne htx'] at hempty
    exact h.waiter_of_empty hkey hempty

lemma Tracks.register (h : d.Tracks keyOf) (htx : keyOf tx = none) (key : K) (context : C) :
    (d.register key context tx).Tracks (Function.update keyOf tx (some key)) := by
  unfold Demux.register
  split
  · exact h.answered htx key (by simp)
  · next halive =>
    split
    · next w hw => exact (h.settle hw (by simp)).answered htx key (by simp)
    · next hnone =>
      have hne : ∀ {key' w}, d.waiters.lookup key' = some w → w.tx ≠ tx ∧ key' ≠ key := by
        intro key' w hw
        constructor
        · rintro rfl
          rw [h.key_of_waiter hw] at htx
          cases htx
        · grind
      have hcases : ∀ {key' w}, (d.waiters.insert key ⟨context, tx⟩).lookup key' = some w →
          (key' = key ∧ w = ⟨context, tx⟩) ∨ d.waiters.lookup key' = some w := by
        intro key' w hw
        by_cases hkey : key' = key
        · subst hkey
          rw [AList.lookup_insert] at hw
          grind
        · grind [AList.lookup_insert_ne]
      refine ⟨fun hw => ?_, fun hw => ?_, fun {tx' key'} hkey hempty => ?_,
        fun hpoison => absurd halive hpoison⟩
      · rcases hcases hw with ⟨rfl, rfl⟩ | hw
        · simp
        · rw [update_of_ne (hne hw).1]
          exact h.key_of_waiter hw
      · rcases hcases hw with ⟨rfl, rfl⟩ | hw
        · simp
        · rw [channels_setChannel, update_of_ne (hne hw).1]
          exact h.empty_of_waiter hw
      · by_cases htx' : tx' = tx
        · subst htx'
          rw [update_self] at hkey
          simp_all
        · rw [update_of_ne htx'] at hkey
          rw [channels_setChannel, update_of_ne htx'] at hempty
          obtain ⟨w, hw, rfl⟩ := h.waiter_of_empty hkey hempty
          simp_all

/-- Something is sent on the channels of a list of waiters. -/
lemma foldl_setChannel (l : List (Sigma fun _ : K => Waiter C)) (c : Oneshot (EngineReply R))
    (d : Demux K C R) :
    (l.foldl (fun d w => d.setChannel w.2.tx c) d).waiters = d.waiters ∧
      ∀ tx, (l.foldl (fun d w => d.setChannel w.2.tx c) d).channels tx =
        if ∃ w ∈ l, w.2.tx = tx then c else d.channels tx := by
  induction l generalizing d with
  | nil => simp
  | cons w l ih =>
    obtain ⟨hwai, hcha⟩ := ih (d.setChannel w.2.tx c)
    refine ⟨hwai, fun tx => ?_⟩
    rw [List.foldl_cons, hcha, channels_setChannel]
    by_cases hl : ∃ w ∈ l, w.2.tx = tx
    · obtain ⟨w', hw', htx⟩ := hl
      rw [if_pos ⟨w', hw', htx⟩, if_pos ⟨w', List.mem_cons_of_mem _ hw', htx⟩]
    · rw [if_neg hl]
      by_cases htx : w.2.tx = tx
      · subst htx
        simp
      · rw [update_of_ne (Ne.symm htx), if_neg]
        rintro ⟨w', hw', htx'⟩
        grind

/-- The table is emptied and every waiter answered. -/
lemma poisonWith_of_none (h : d.poison = none) (fault : ProbeFault) :
    (d.poisonWith fault).waiters = ∅ ∧ ∀ tx, ((∃ key w, d.waiters.lookup key = some w ∧ w.tx = tx) ∧
          (d.poisonWith fault).channels tx = .sent (.failed fault)) ∨
        ((∀ key w, d.waiters.lookup key = some w → w.tx ≠ tx) ∧
          (d.poisonWith fault).channels tx = d.channels tx) := by
  obtain ⟨hwai, hcha⟩ := foldl_setChannel d.waiters.entries (.sent (.failed fault))
    ({ d with waiters := ∅, poison := some fault } : Demux K C R)
  have hkill : d.poisonWith fault = d.waiters.entries.foldl
      (fun d w => d.setChannel w.2.tx (.sent (.failed fault)))
      { d with waiters := ∅, poison := some fault } := by
    simp [poisonWith, h]
  rw [hkill]
  refine ⟨hwai, fun tx => ?_⟩
  rw [hcha]
  split_ifs with hex
  · obtain ⟨w, hw, htx⟩ := hex
    exact .inl ⟨⟨w.1, w.2, AList.mem_lookup_iff.mpr hw, htx⟩, rfl⟩
  · refine .inr ⟨fun key w hw htx => hex ⟨⟨key, w⟩, AList.mem_lookup_iff.mp hw, htx⟩, rfl⟩

lemma Tracks.poisonWith (h : d.Tracks keyOf) (fault : ProbeFault) :
    (d.poisonWith fault).Tracks keyOf := by
  cases hpoison : d.poison with
  | some first => grind [Demux.poisonWith]
  | none =>
    obtain ⟨hwai, hcha⟩ := poisonWith_of_none hpoison fault
    refine ⟨fun hw => ?_, fun hw => ?_, fun {tx key} hkey hempty => ?_, fun _ key => ?_⟩
    · simp [hwai] at hw
    · simp [hwai] at hw
    · rcases hcha tx with ⟨-, hsent⟩ | ⟨hnone, hsame⟩
      · grind
      · obtain ⟨w, hw, htx⟩ := h.waiter_of_empty hkey (hsame ▸ hempty)
        grind
    · simp [hwai]

/-! ## Waiters after an operation -/

variable {key' : K}

lemma lookup_of_remove (h : (d.remove key).waiters.lookup key' = some w) :
    d.waiters.lookup key' = some w := by
  by_cases hkey : key' = key
  · subst hkey
    simp at h
  · simp_all

variable {reply : EngineReply R}

lemma lookup_of_dispatch (h : (d.dispatch key reply).waiters.lookup key' = some w) :
    d.waiters.lookup key' = some w := by
  unfold dispatch at h
  split at h
  · exact lookup_of_remove h
  · exact h

lemma lookup_of_deregister (h : (d.deregister key).waiters.lookup key' = some w) :
    d.waiters.lookup key' = some w := by
  unfold deregister at h
  split at h
  · exact lookup_of_remove h
  · exact h

lemma lookup_of_poisonWith {fault : ProbeFault}
    (h : (d.poisonWith fault).waiters.lookup key = some w) : d.waiters.lookup key = some w := by
  cases hpoison : d.poison with
  | some first => simpa [poisonWith, hpoison] using h
  | none => simp [(poisonWith_of_none hpoison fault).1] at h

/-- A registration puts its own waiter under its key, or none. -/
lemma lookup_of_register {context : C}
    (h : (d.register key context tx).waiters.lookup key' = some w)
    (hdead : d.poison ≠ none → ∀ key, d.waiters.lookup key = none) :
    (key' = key ∧ w.tx = tx) ∨ (key' ≠ key ∧ d.waiters.lookup key' = some w) := by
  unfold register at h
  split at h
  · next fault hpoison =>
    rw [waiters_setChannel, hdead (by simp [hpoison])] at h
    cases h
  · by_cases hkey : key' = key
    · subst hkey
      split at h
      · simp at h
      · rw [waiters_setChannel, AList.lookup_insert] at h
        grind
    · split at h
      · simp_all
      · simp_all

/-! ## Closed channels -/

lemma closed_of_register {context : C} {tx' : ℕ}
    (h : (d.register key context tx).channels tx' = .closed) : d.channels tx' = .closed := by
  unfold register at h
  split at h
  · by_cases htx : tx' = tx <;> simp_all [Function.update]
  · split at h
    · next w _ =>
      by_cases htx : tx' = tx
      · simp [htx] at h
      · by_cases hw : tx' = w.tx <;> simp_all [Function.update]
    · by_cases htx : tx' = tx <;> simp_all [Function.update]

lemma closed_of_dispatch (h : (d.dispatch key reply).channels tx = .closed) :
    d.channels tx = .closed := by
  unfold dispatch at h
  split at h
  · next w _ => by_cases hw : tx = w.tx <;> simp_all [Function.update]
  · exact h

lemma closed_of_poisonWith {fault : ProbeFault} (h : (d.poisonWith fault).channels tx = .closed) :
    d.channels tx = .closed := by
  cases hpoison : d.poison with
  | some first => simpa [poisonWith, hpoison] using h
  | none =>
    rcases (poisonWith_of_none hpoison fault).2 tx with ⟨-, hsent⟩ | ⟨-, hsame⟩
    · rw [hsent] at h
      cases h
    · exact hsame ▸ h

lemma closed_of_deregister (h : (d.deregister key).channels tx = .closed) :
    d.channels tx = .closed ∨ ∃ w, d.waiters.lookup key = some w ∧ w.tx = tx := by
  unfold deregister at h
  split at h
  · next w hw =>
    by_cases htx : tx = w.tx
    · grind
    · simp_all
  · exact .inl h

end Demux

end Rastreo
