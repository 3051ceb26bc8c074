import Rastreo.Scheduler.Feed

/-!
# What the scheduler's maps hold

All is determined by two sets of pairs (pass, target): those handed out and those whose task is in
the set.  A pair is done when it is handed out and no longer running.  `ScanCore` says what each map
holds in these terms.
-/

namespace Rastreo

open List Option

variable {P T : Type}

/-- A task for the pass `p` of target `t` is in the set. -/
def ScanState.Running (s : ScanState P T) (p t : ℕ) : Prop :=
  ∃ k ∈ s.set, k.passIndex = p ∧ k.targetIndex = t

/-- The pass `p` of target `t` was started and its task joined. -/
def ScanState.Done (s : ScanState P T) (p t : ℕ) : Prop := s.feed.Handed p t ∧ ¬ s.Running p t

def ScanState.sentIndices (s : ScanState P T) : List ℕ := s.sent.map (·.targetIndex)

section Core

variable (scan : Scan P T)

/-- Every pass of target `t` is done. -/
def Scan.AllDone (s : ScanState P T) (t : ℕ) : Prop := ∀ p < scan.probers.length, s.Done p t

def Scan.Exhausted (s : ScanState P T) : Prop :=
  ∀ t < scan.targets.length, ∀ p < scan.probers.length, s.feed.Handed p t

/-- The outcome of the pass `p` of target `t`. -/
def Scan.outcomeAt (p t : ℕ) : Option (Result ProbeOutcome) :=
  scan.probers[p]?.bind fun prober =>
    scan.targets[t]?.map fun target => (scan.ends p t prober target).outcome

/-- One outcome per prober, in pass order. -/
def Scan.scanOf (t : ℕ) (target : T) : TargetScan :=
  ⟨t, scan.probers.zipIdx.map fun x => (x.2, (scan.ends x.2 t x.1 target).outcome)⟩

structure EntryOk (s : ScanState P T) (t : ℕ) (e : PartialTarget) : Prop where
  length_eq : e.outcomes.length = scan.probers.length
  completed_eq : e.completed = e.outcomes.countP Option.isSome
  filled : ∀ p, s.Done p t → e.outcomes[p]? = some (scan.outcomeAt p t)
  empty : ∀ p < scan.probers.length, ¬ s.Done p t → e.outcomes[p]? = some none

/-- `ready` is a target that is complete but not yet sent. -/
structure ScanCore (ready : Option ℕ) (s : ScanState P T) : Prop where
  feed_ok : FeedOk scan.targets scan.probers.length s.feed
  ids_nodup : (s.set.map (·.id)).Nodup
  pairs_nodup : (s.set.map fun k => (k.passIndex, k.targetIndex)).Nodup
  /-- As started. -/
  task_ok : ∀ k ∈ s.set, s.feed.Handed k.passIndex k.targetIndex ∧
    scan.probers[k.passIndex]? = some k.prober ∧ scan.targets[k.targetIndex]? = some k.target
  coord : ∀ id c, s.coordById.lookup id = some c ↔
    ∃ k ∈ s.set, k.id = id ∧ (k.passIndex, k.targetIndex) = c
  /-- From its first start to its last outcome. -/
  map_iff : ∀ t x, s.targetMap.lookup t = some x ↔
    scan.targets[t]? = some x ∧ (∃ p, s.feed.Handed p t) ∧ ¬ scan.AllDone s t
  /-- A target is live from its first outcome until it is sent. -/
  live_iff : ∀ t, (s.live.lookup t).isSome ↔ (∃ p, s.Done p t) ∧ t ∉ s.sentIndices
  live_ok : ∀ t e, s.live.lookup t = some e → EntryOk scan s t e
  sent_ok : ∀ x ∈ s.sent, scan.AllDone s x.targetIndex ∧
    ∃ target, scan.targets[x.targetIndex]? = some target ∧ x = scan.scanOf x.targetIndex target
  sent_nodup : s.sentIndices.Nodup
  ready_ok : ∀ t, ready = some t → scan.AllDone s t ∧ t ∉ s.sentIndices
  complete : ∀ t, scan.AllDone s t → t ∈ s.sentIndices ∨ ready = some t

end Core

variable {scan : Scan P T} {s s' : ScanState P T} {ready : Option ℕ}

lemma ScanCore.frame (h : ScanCore scan ready s) (hfeed : s'.feed = s.feed) (hset : s'.set = s.set)
    (hcoord : s'.coordById = s.coordById) (hlive : s'.live = s.live)
    (hmap : s'.targetMap = s.targetMap) (hsent : s'.sent = s.sent) : ScanCore scan ready s' := by
  obtain ⟨feed, set, coord, live, map, sent, cancelSeen, receiverGone, phase⟩ := s
  obtain ⟨feed', set', coord', live', map', sent', cancelSeen', receiverGone', phase'⟩ := s'
  dsimp only at hfeed hset hcoord hlive hmap hsent
  subst hfeed hset hcoord hlive hmap hsent
  exact ⟨h.feed_ok, h.ids_nodup, h.pairs_nodup, h.task_ok, h.coord, h.map_iff, h.live_iff,
    fun t e he => ⟨(h.live_ok t e he).1, (h.live_ok t e he).2, (h.live_ok t e he).3,
      (h.live_ok t e he).4⟩, h.sent_ok, h.sent_nodup, h.ready_ok, h.complete⟩

variable {t : ℕ}

lemma ScanCore.outcomeAt_isSome (h : ScanCore scan ready s) {p : ℕ} (hdone : s.Done p t) :
    (scan.outcomeAt p t).isSome := by
  obtain ⟨⟨hp, c, hc, hlt⟩, -⟩ := hdone
  rw [h.feed_ok.numProbers_eq] at hp
  have hct := (h.feed_ok.within c.1 c.2 hc).1
  grind [Scan.outcomeAt]

variable {e : PartialTarget}

lemma EntryOk.congr (h : EntryOk scan s t e) (hdone : ∀ p, s'.Done p t ↔ s.Done p t) :
    EntryOk scan s' t e where
  length_eq := h.length_eq
  completed_eq := h.completed_eq
  filled p hp := h.filled p ((hdone p).mp hp)
  empty p hp hnot := h.empty p hp fun hd => hnot ((hdone p).mpr hd)

/-! ## Starting a probe -/

def ScanState.CurrentRunning (s : ScanState P T) : Prop :=
  ∃ k ∈ s.set, ∃ p, s.feed.current = some (k.targetIndex, p)

variable {k : Task P T}

lemma done_iff_of_start {f : Feed T} (hset : s'.set = s.set ++ [k]) (hfeed : s'.feed = f)
    (hnew : ¬ s.feed.Handed k.passIndex k.targetIndex)
    (hhanded : ∀ p t, f.Handed p t ↔ s.feed.Handed p t ∨ p = k.passIndex ∧ t = k.targetIndex)
    (p t : ℕ) : s'.Done p t ↔ s.Done p t := by
  simp only [ScanState.Done, ScanState.Running, hset, hfeed, hhanded, mem_append, mem_singleton]
  constructor
  · rintro ⟨hp | ⟨rfl, rfl⟩, hrun⟩
    · grind
    · grind
  · rintro ⟨hp, hrun⟩
    refine ⟨.inl hp, ?_⟩
    grind

def Located (coords : AList fun _ : ℕ => ℕ × ℕ) (tasks : List (Task P T)) : Prop :=
  ∀ id c, coords.lookup id = some c ↔ ∃ k ∈ tasks, k.id = id ∧ (k.passIndex, k.targetIndex) = c

variable {coords : AList fun _ : ℕ => ℕ × ℕ} {tasks : List (Task P T)}

lemma Located.insert (h : Located coords tasks) (hid : k.id ∉ tasks.map (·.id)) :
    Located (coords.insert k.id (k.passIndex, k.targetIndex)) (tasks ++ [k]) := by
  intro id c
  by_cases heq : id = k.id
  · subst heq
    rw [AList.lookup_insert]
    constructor
    · intro hc
      grind
    · rintro ⟨k', hk', hidk, rfl⟩
      rcases mem_append.mp hk' with hk' | hk'
      · grind
      · grind
  · rw [AList.lookup_insert_ne heq, h id c]
    constructor
    · rintro ⟨k', hk', hidk, hc⟩
      grind
    · rintro ⟨k', hk', hidk, hc⟩
      rcases mem_append.mp hk' with hk' | hk'
      · grind
      · grind

lemma Located.erase (h : Located coords tasks) (id₀ : ℕ) :
    Located (coords.erase id₀) (tasks.filter (·.id ≠ id₀)) := by
  intro id c
  by_cases heq : id = id₀
  · subst heq
    rw [AList.lookup_erase]
    refine ⟨fun hc => (by cases hc), ?_⟩
    grind
  · rw [AList.lookup_erase_ne heq, h id c]
    constructor
    · grind
    · rintro ⟨k', hk', hid, hc⟩
      grind

lemma ScanCore.addTask (h : ScanCore scan ready s) {f : Feed T} {targetMap : TargetMap T}
    (phase : ScanPhase) (hid : k.id ∉ s.set.map (·.id))
    (hprober : scan.probers[k.passIndex]? = some k.prober)
    (htarget : scan.targets[k.targetIndex]? = some k.target)
    (hok : FeedOk scan.targets scan.probers.length f)
    (hnew : ¬ s.feed.Handed k.passIndex k.targetIndex)
    (hhanded : ∀ p t, f.Handed p t ↔ s.feed.Handed p t ∨ p = k.passIndex ∧ t = k.targetIndex)
    (hself : targetMap.lookup k.targetIndex = some k.target)
    (hother : ∀ t ≠ k.targetIndex, targetMap.lookup t = s.targetMap.lookup t) :
    ScanCore scan ready
      { s with
        feed := f, targetMap, set := s.set ++ [k]
        coordById := s.coordById.insert k.id (k.passIndex, k.targetIndex), phase } := by
  set s' : ScanState P T := { s with
    feed := f, targetMap, set := s.set ++ [k]
    coordById := s.coordById.insert k.id (k.passIndex, k.targetIndex), phase }
  have hdone : ∀ p t, s'.Done p t ↔ s.Done p t := done_iff_of_start rfl rfl hnew hhanded
  have hall : ∀ t, scan.AllDone s' t ↔ scan.AllDone s t := fun t =>
    forall₂_congr fun p _ => hdone p t
  constructor
  case feed_ok => exact hok
  case ids_nodup =>
    rw [map_append, nodup_append]
    refine ⟨h.ids_nodup, by simp, fun a ha b hb => ?_⟩
    rintro rfl
    have hak : a = k.id := mem_singleton.mp hb
    exact hid (hak ▸ ha)
  case pairs_nodup =>
    rw [map_append, nodup_append]
    refine ⟨h.pairs_nodup, by simp, fun a ha b hb => ?_⟩
    rintro rfl
    obtain ⟨k', hk', hpair⟩ := mem_map.mp ha
    obtain ⟨hp, ht⟩ := Prod.mk.inj (hpair.trans (mem_singleton.mp hb))
    exact hnew (hp ▸ ht ▸ (h.task_ok k' hk').1)
  case task_ok =>
    intro k' hk'
    rcases mem_append.mp hk' with hk' | hk'
    · exact ⟨(hhanded _ _).mpr (.inl (h.task_ok k' hk').1), (h.task_ok k' hk').2⟩
    · obtain rfl := mem_singleton.mp hk'
      grind
  case coord => exact Located.insert h.coord hid
  case map_iff =>
    intro t x
    rw [hall]
    by_cases heq : t = k.targetIndex
    · subst heq
      rw [hself, htarget]
      refine ⟨fun hx => ⟨hx, ⟨k.passIndex, (hhanded _ _).mpr (.inr ⟨rfl, rfl⟩)⟩, ?_⟩,
        fun hx => hx.1⟩
      intro hdone'
      exact hnew (hdone' k.passIndex (List.getElem?_eq_some_iff.mp hprober).1).1
    · rw [hother t heq, h.map_iff]
      refine and_congr_right fun _ => and_congr_left fun _ => exists_congr fun p => ?_
      rw [hhanded]
      grind
  case live_iff =>
    intro t
    rw [h.live_iff]
    exact and_congr_left fun _ => exists_congr fun p => (hdone p t).symm
  case live_ok => exact fun t e he => (h.live_ok t e he).congr fun p => hdone p t
  case sent_ok => exact fun x hx => ⟨(hall _).mpr (h.sent_ok x hx).1, (h.sent_ok x hx).2⟩
  case sent_nodup => exact h.sent_nodup
  case ready_ok => exact fun t ht => ⟨(hall t).mpr (h.ready_ok t ht).1, (h.ready_ok t ht).2⟩
  case complete => exact fun t ht => h.complete t ((hall t).mp ht)

/-- The feed is exhausted, or one task is added. -/
lemma ScanCore.startNext_cases (h : ScanCore scan ready s) (hpos : 0 < scan.probers.length)
    {id : ℕ} (hid : id ∉ s.set.map (·.id)) (exhausted after : ScanPhase) :
    (startNext scan id exhausted after s = { s with phase := exhausted } ∧ scan.Exhausted s) ∨
    ∃ s', startNext scan id exhausted after s = s' ∧ ScanCore scan ready s' ∧
      s'.phase = after ∧ s'.set.length = s.set.length + 1 ∧ s'.cancelSeen = s.cancelSeen ∧
      s'.receiverGone = s.receiverGone ∧ s'.CurrentRunning ∧
      (∀ p t, s.feed.Handed p t → s'.feed.Handed p t) ∧
      s'.feed.handedCount = s.feed.handedCount + 1 := by
  have hcase := Feed.next_cases h.feed_ok hpos s.targetMap
  generalize hnext : s.feed.next s.targetMap = r at hcase
  cases hcase with
  | exhausted hall =>
    left
    refine ⟨?_, hall⟩
    unfold startNext
    rw [hnext]
  | next p t target f' htarget hp hok hcur hnew hhanded hcount =>
    right
    have hf0 : f'.Handed 0 t := by
      refine ⟨hok.numProbers_eq ▸ hpos, (t, p + 1), hcur, .inr ⟨rfl, by simp⟩⟩
    have hnot : ¬ scan.AllDone s t := fun hall => hnew (hall p hp).1
    set targetMap' := if p = 0 then s.targetMap.insert t target else s.targetMap with hmap'
    have hlookup : targetMap'.lookup t = some target := by
      rw [hmap']
      split_ifs with hp0
      · simp
      · refine (h.map_iff t target).mpr ⟨htarget, ⟨0, ?_⟩, hnot⟩
        grind
    obtain ⟨prober, hprober⟩ : ∃ prober, scan.probers[p]? = some prober :=
      ⟨_, getElem?_eq_getElem hp⟩
    have hrun : startNext scan id exhausted after s =
        { s with
          feed := f', targetMap := targetMap', set := s.set ++ [⟨id, prober, target, p, t⟩]
          coordById := s.coordById.insert id (p, t), phase := after } := by
      unfold startNext spawnProbe
      rw [hnext]
      grind
    refine ⟨_, hrun, ?_, rfl, by simp, rfl, rfl, ?_, fun p t ht => (hhanded p t).mpr (.inl ht),
      hcount⟩
    · refine h.addTask (k := ⟨id, prober, target, p, t⟩) after hid hprober htarget hok hnew hhanded
        hlookup fun t' ht' => ?_
      rw [hmap']
      split_ifs
      · exact AList.lookup_insert_ne ht'
      · rfl
    · exact ⟨⟨id, prober, target, p, t⟩, by simp, p + 1, hcur⟩

/-! ## Recording an outcome -/

lemma length_filter_ne {α β : Type} [DecidableEq β] {f : α → β} {l : List α} {a : α}
    (hnd : (l.map f).Nodup) (ha : a ∈ l) :
    (l.filter fun x => f x ≠ f a).length + 1 = l.length := by
  have hone : l.countP (fun x => f x = f a) = 1 := by
    have hcount := count_eq_one_of_mem hnd (mem_map_of_mem ha)
    rw [List.count, countP_map] at hcount
    rw [← hcount]
    exact countP_congr fun x _ => by simp
  have hsum := length_eq_countP_add_countP (fun x => decide (f x = f a)) (l := l)
  rw [hone] at hsum
  rw [← countP_eq_length_filter, hsum, Nat.add_comm 1]
  congr 1
  simp

lemma done_iff_of_join (h : ScanCore scan ready s) (hk : k ∈ s.set)
    (hset : s'.set = s.set.filter (·.id ≠ k.id)) (hfeed : s'.feed = s.feed) (p t : ℕ) :
    s'.Done p t ↔ s.Done p t ∨ p = k.passIndex ∧ t = k.targetIndex := by
  have hid : ∀ k' ∈ s.set, k'.id = k.id → k' = k :=
    fun k' hk' heq => inj_on_of_nodup_map h.ids_nodup hk' hk heq
  have hpair : ∀ k' ∈ s.set, k'.passIndex = k.passIndex → k'.targetIndex = k.targetIndex →
      k' = k := fun k' hk' hp ht =>
    inj_on_of_nodup_map h.pairs_nodup hk' hk (Prod.ext hp ht)
  simp only [ScanState.Done, ScanState.Running, hset, hfeed, mem_filter, decide_eq_true_eq]
  constructor
  · rintro ⟨hp, hrun⟩
    by_cases heq : p = k.passIndex ∧ t = k.targetIndex
    · exact .inr heq
    · refine .inl ⟨hp, ?_⟩
      rintro ⟨k', hk', rfl, rfl⟩
      grind
  · rintro (⟨hp, hrun⟩ | ⟨rfl, rfl⟩)
    · grind
    · refine ⟨(h.task_ok k hk).1, ?_⟩
      grind

lemma ScanCore.not_sent_of_running (h : ScanCore scan ready s) (hk : k ∈ s.set) :
    k.targetIndex ∉ s.sentIndices := by
  intro hmem
  obtain ⟨x, hx, hxt⟩ := mem_map.mp hmem
  have hdone := (h.sent_ok x hx).1 k.passIndex (List.getElem?_eq_some_iff.mp (h.task_ok k hk).2.1).1
  exact hdone.2 ⟨k, hk, rfl, hxt.symm⟩

lemma ScanCore.entryOk_getD (h : ScanCore scan ready s) (hk : k ∈ s.set) :
    EntryOk scan s k.targetIndex
      ((s.live.lookup k.targetIndex).getD ⟨List.replicate scan.probers.length none, 0⟩) := by
  cases hlive : s.live.lookup k.targetIndex with
  | some e => exact h.live_ok _ e hlive
  | none =>
    have hnone : ∀ p, ¬ s.Done p k.targetIndex := fun p hp => by
      have hsome := (h.live_iff k.targetIndex).mpr ⟨⟨p, hp⟩, h.not_sent_of_running hk⟩
      grind
    refine ⟨by simp, by simp [countP_replicate], fun p hp => absurd hp (hnone p), ?_⟩
    intro p hp _
    simp [hp]

lemma EntryOk.fill (h : EntryOk scan s t e) {p : ℕ} {outcome : Result ProbeOutcome}
    (hp : p < scan.probers.length) (hnot : ¬ s.Done p t) (hout : scan.outcomeAt p t = some outcome)
    (hdone : ∀ p', s'.Done p' t ↔ s.Done p' t ∨ p' = p) :
    EntryOk scan s' t ⟨e.outcomes.set p (some outcome), e.completed + 1⟩ where
  length_eq := by rw [length_set, h.length_eq]
  completed_eq := by
    have hlt : p < e.outcomes.length := h.length_eq ▸ hp
    have hslot : e.outcomes[p] = none := by
      have := h.empty p hp hnot
      grind
    rw [countP_set hlt, hslot, h.completed_eq]
    simp
  filled p' hp' := by
    have hlt : p < e.outcomes.length := h.length_eq ▸ hp
    by_cases heq : p = p'
    · subst heq
      grind
    · rw [getElem?_set_ne heq]
      exact h.filled p' (((hdone p').mp hp').resolve_right fun h' => heq h'.symm)
  empty p' hlt hnot' := by
    have hne : p ≠ p' := fun heq => hnot' ((hdone p').mpr (.inr heq.symm))
    rw [getElem?_set_ne hne]
    exact h.empty p' hlt fun hd => hnot' ((hdone p').mpr (.inl hd))

lemma EntryOk.completed_eq_iff (h : EntryOk scan s t e)
    (hsome : ∀ p, s.Done p t → (scan.outcomeAt p t).isSome) :
    e.completed = scan.probers.length ↔ scan.AllDone s t := by
  rw [h.completed_eq, ← h.length_eq, countP_eq_length]
  constructor
  · intro hall p hp
    by_contra hnot
    have hmem := mem_of_getElem? (h.empty p hp hnot)
    grind
  · intro hall slot hslot
    obtain ⟨p, hp⟩ := mem_iff_getElem?.mp hslot
    have hlt : p < scan.probers.length := h.length_eq ▸ (List.getElem?_eq_some_iff.mp hp).1
    rw [h.filled p (hall p hlt), Option.some.injEq] at hp
    exact hp ▸ hsome p (hall p hlt)

/-- The target becomes ready if every pass is done now. -/
lemma ScanCore.fileOutcome (h : ScanCore scan none s) (hk : k ∈ s.set) {r : Option ℕ}
    (hset : s'.set = s.set.filter (·.id ≠ k.id)) (hfeed : s'.feed = s.feed)
    (hcoord : s'.coordById = s.coordById.erase k.id)
    (hlive : s'.live = s.live.insert k.targetIndex e) (hsent : s'.sent = s.sent)
    (hentry : EntryOk scan s' k.targetIndex e) (hmap : s'.targetMap.lookup k.targetIndex =
      if r = none then s.targetMap.lookup k.targetIndex else none)
    (hother : ∀ t ≠ k.targetIndex, s'.targetMap.lookup t = s.targetMap.lookup t)
    (hready : ∀ t, r = some t ↔ t = k.targetIndex ∧ scan.AllDone s' k.targetIndex) :
    ScanCore scan r s' := by
  have hdone := done_iff_of_join h hk hset hfeed
  have hind : s'.sentIndices = s.sentIndices := by rw [ScanState.sentIndices, hsent]; rfl
  have hmono : ∀ t, scan.AllDone s t → scan.AllDone s' t := fun t hall p hp =>
    (hdone p t).mpr (.inl (hall p hp))
  have hall : ∀ t ≠ k.targetIndex, (scan.AllDone s' t ↔ scan.AllDone s t) := by
    intro t ht
    refine forall₂_congr fun p _ => ?_
    rw [hdone]
    grind
  have hnotAll : ¬ scan.AllDone s k.targetIndex := fun hd =>
    (hd k.passIndex (List.getElem?_eq_some_iff.mp (h.task_ok k hk).2.1).1).2 ⟨k, hk, rfl, rfl⟩
  have hsub : ∀ k' ∈ s'.set, k' ∈ s.set ∧ k'.id ≠ k.id := fun k' hk' => by grind
  constructor
  case feed_ok => exact hfeed ▸ h.feed_ok
  case ids_nodup => exact hset ▸ h.ids_nodup.sublist (filter_sublist.map _)
  case pairs_nodup => exact hset ▸ h.pairs_nodup.sublist (filter_sublist.map _)
  case task_ok => exact fun k' hk' => hfeed ▸ h.task_ok k' (hsub k' hk').1
  case coord =>
    rw [hcoord, hset]
    exact Located.erase h.coord k.id
  case map_iff =>
    intro t x
    by_cases heq : t = k.targetIndex
    · subst heq
      rw [hmap]
      split_ifs with hr
      · have hnot : ¬ scan.AllDone s' k.targetIndex := fun hd => by simp_all
        rw [h.map_iff, hfeed]
        simp only [hnot, hnotAll]
      · obtain ⟨t, ht⟩ := ne_none_iff_exists'.mp hr
        simp [((hready t).mp ht).2]
    · rw [hother t heq, h.map_iff, hall t heq, hfeed]
  case live_iff =>
    intro t
    rw [hlive, hind]
    by_cases heq : t = k.targetIndex
    · subst heq
      rw [AList.lookup_insert]
      simp only [isSome_some, true_iff]
      exact ⟨⟨k.passIndex, (hdone _ _).mpr (.inr ⟨rfl, rfl⟩)⟩, h.not_sent_of_running hk⟩
    · rw [AList.lookup_insert_ne heq, h.live_iff]
      refine and_congr_left fun _ => exists_congr fun p => ?_
      rw [hdone]
      grind
  case live_ok =>
    intro t e' he'
    rw [hlive] at he'
    by_cases heq : t = k.targetIndex
    · subst heq
      rw [AList.lookup_insert] at he'
      grind
    · rw [AList.lookup_insert_ne heq] at he'
      refine (h.live_ok t e' he').congr fun p => ?_
      rw [hdone]
      grind
  case sent_ok =>
    rw [hsent]
    exact fun x hx => ⟨hmono _ (h.sent_ok x hx).1, (h.sent_ok x hx).2⟩
  case sent_nodup => exact hind ▸ h.sent_nodup
  case ready_ok =>
    intro t ht
    obtain ⟨rfl, hd⟩ := (hready t).mp ht
    exact ⟨hd, hind ▸ h.not_sent_of_running hk⟩
  case complete =>
    intro t ht
    rw [hind]
    by_cases heq : t = k.targetIndex
    · subst heq
      grind
    · exact .inl ((h.complete t ((hall t heq).mp ht)).resolve_right (by simp))

lemma ScanCore.recordOutcome_cases (h : ScanCore scan none s) (hk : k ∈ s.set) :
    ∃ r s', recordOutcome scan k s = s' ∧ ScanCore scan r s' ∧ s'.phase = .refilling r ∧
      s'.set.length + 1 = s.set.length ∧ s'.feed = s.feed ∧ s'.cancelSeen = s.cancelSeen ∧
      s'.receiverGone = s.receiverGone := by
  obtain ⟨-, hprober, htarget⟩ := h.task_ok k hk
  have hp : k.passIndex < scan.probers.length := (List.getElem?_eq_some_iff.mp hprober).1
  have hcoord := (h.coord k.id _).mpr ⟨k, hk, rfl, rfl⟩
  have hentry := h.entryOk_getD hk
  have hnot : ¬ s.Done k.passIndex k.targetIndex := fun hd => hd.2 ⟨k, hk, rfl, rfl⟩
  have hlen := length_filter_ne h.ids_nodup hk
  set e := (s.live.lookup k.targetIndex).getD ⟨List.replicate scan.probers.length none, 0⟩ with he
  set outcome := (scan.ends k.passIndex k.targetIndex k.prober k.target).outcome with hdef
  have hlt : k.passIndex < e.outcomes.length := hentry.length_eq ▸ hp
  have hout : scan.outcomeAt k.passIndex k.targetIndex = some outcome := by
    simp [Scan.outcomeAt, hprober, htarget, hdef]
  -- The state with the outcome filed, before the target is found to be ready or not.
  set filed : ScanState P T :=
    { s with
      set := s.set.filter (·.id ≠ k.id), coordById := s.coordById.erase k.id
      live := s.live.insert k.targetIndex
        ⟨e.outcomes.set k.passIndex (some outcome), e.completed + 1⟩ } with hfiled
  have hdone : ∀ p t, filed.Done p t ↔ s.Done p t ∨ p = k.passIndex ∧ t = k.targetIndex :=
    done_iff_of_join h hk rfl rfl
  have hent' : EntryOk scan filed k.targetIndex
      ⟨e.outcomes.set k.passIndex (some outcome), e.completed + 1⟩ :=
    hentry.fill hp hnot hout fun p => by simp [hdone]
  have hall : e.completed + 1 = scan.probers.length ↔ scan.AllDone filed k.targetIndex := by
    refine hent'.completed_eq_iff fun p hd => ?_
    have hpn : p < scan.probers.length := h.feed_ok.numProbers_eq ▸ hd.1.1
    simp [Scan.outcomeAt, hpn, htarget]
  by_cases hcom : e.completed + 1 = scan.probers.length
  · have hrun : recordOutcome scan k s =
        { filed with
          targetMap := s.targetMap.erase k.targetIndex
          phase := .refilling (some k.targetIndex) } := by
      unfold recordOutcome
      grind
    refine ⟨_, _, hrun, ?_, rfl, hlen, rfl, rfl, rfl⟩
    refine h.fileOutcome hk rfl rfl rfl rfl rfl (hent'.congr fun _ => Iff.rfl) ?_ ?_ ?_
    · simp
    · exact fun t ht => AList.lookup_erase_ne ht
    · intro t
      rw [Option.some.injEq, eq_comm]
      exact ⟨fun ht => ⟨ht, hall.mp hcom⟩, And.left⟩
  · have hrun : recordOutcome scan k s = { filed with phase := .refilling none } := by
      unfold recordOutcome
      grind
    refine ⟨_, _, hrun, ?_, rfl, hlen, rfl, rfl, rfl⟩
    refine h.fileOutcome hk rfl rfl rfl rfl rfl (hent'.congr fun _ => Iff.rfl) rfl
      (fun _ _ => rfl) fun t => ⟨fun hr => (by cases hr), ?_⟩
    rintro ⟨-, hd⟩
    exact absurd (hall.mpr hd) hcom

/-! ## Sending a target -/

lemma takeOutcomes_map_some {R : Type} (l : List R) (p : ℕ) :
    takeOutcomes (l.map some) p = some ((l.zipIdx p).map fun x => (x.2, x.1)) := by
  induction l generalizing p with
  | nil => rfl
  | cons r l ih => simp [takeOutcomes, ih]

lemma EntryOk.takeOutcomes_eq {target : T} (h : EntryOk scan s t e) (hall : scan.AllDone s t)
    (htarget : scan.targets[t]? = some target) :
    takeOutcomes e.outcomes 0 = some (scan.scanOf t target).outcomes := by
  have hslots : e.outcomes =
      (scan.probers.zipIdx.map fun x => (scan.ends x.2 t x.1 target).outcome).map some := by
    apply ext_getElem?
    intro p
    by_cases hp : p < scan.probers.length
    · rw [h.filled p (hall p hp)]
      simp [Scan.outcomeAt, htarget, hp]
    · have hlen : e.outcomes.length ≤ p := by rw [h.length_eq]; omega
      grind
  rw [hslots, takeOutcomes_map_some, Scan.scanOf, Option.some.injEq]
  apply ext_getElem?
  intro p
  grind

lemma ScanCore.markSent {target : T} (h : ScanCore scan (some t) s)
    (htarget : scan.targets[t]? = some target) :
    ScanCore scan none
      { s with
        live := s.live.erase t, sent := s.sent ++ [scan.scanOf t target], phase := .joining } := by
  obtain ⟨hall, hunsent⟩ := h.ready_ok t rfl
  have hind : (s.sent ++ [scan.scanOf t target]).map (·.targetIndex) = s.sentIndices ++ [t] := by
    rw [map_append]
    rfl
  constructor
  case feed_ok => exact h.feed_ok
  case ids_nodup => exact h.ids_nodup
  case pairs_nodup => exact h.pairs_nodup
  case task_ok => exact h.task_ok
  case coord => exact h.coord
  case map_iff => exact h.map_iff
  case live_iff =>
    intro t'
    rw [ScanState.sentIndices, hind]
    by_cases heq : t' = t
    · subst heq
      simp [AList.lookup_erase]
    · rw [AList.lookup_erase_ne heq, h.live_iff]
      refine and_congr_right fun _ => ?_
      simp [heq]
  case live_ok =>
    intro t' e he
    by_cases heq : t' = t
    · subst heq
      rw [AList.lookup_erase] at he
      cases he
    · rw [AList.lookup_erase_ne heq] at he
      exact (h.live_ok t' e he).congr fun _ => Iff.rfl
  case sent_ok =>
    intro x hx
    rcases mem_append.mp hx with hx | hx
    · exact h.sent_ok x hx
    · obtain rfl := mem_singleton.mp hx
      exact ⟨hall, target, htarget, rfl⟩
  case sent_nodup =>
    rw [ScanState.sentIndices, hind, nodup_append]
    refine ⟨h.sent_nodup, by simp, fun a ha b hb => ?_⟩
    rintro rfl
    exact hunsent (mem_singleton.mp hb ▸ ha)
  case ready_ok => exact fun t' ht' => (by cases ht')
  case complete =>
    intro t' ht'
    rw [ScanState.sentIndices, hind, mem_append, mem_singleton]
    exact .inl ((h.complete t' ht').imp_right fun heq => (Option.some.inj heq).symm)

lemma ScanCore.sendReady_cases (h : ScanCore scan (some t) s) (hpos : 0 < scan.probers.length) :
    (∃ s', sendReady true t s = s' ∧ ScanCore scan none s' ∧ s'.phase = .joining ∧
      s'.set = s.set ∧ s'.feed = s.feed ∧ s'.cancelSeen = s.cancelSeen ∧
      s'.receiverGone = s.receiverGone) ∧
    (sendReady false t s).phase = .returned ∧ (sendReady false t s).receiverGone = true ∧
      (sendReady false t s).set = s.set ∧ (sendReady false t s).feed = s.feed := by
  obtain ⟨hall, hunsent⟩ := h.ready_ok t rfl
  obtain ⟨e, he⟩ := isSome_iff_exists.mp ((h.live_iff t).mpr ⟨⟨0, hall 0 hpos⟩, hunsent⟩)
  have hout := h.outcomeAt_isSome (hall 0 hpos)
  obtain ⟨target, htarget⟩ : ∃ target, scan.targets[t]? = some target := by
    cases htarget : scan.targets[t]? with
    | some target => exact ⟨target, rfl⟩
    | none => simp [Scan.outcomeAt, htarget] at hout
  have htake := (h.live_ok t e he).takeOutcomes_eq hall htarget
  have hrun : ∀ b, sendReady b t s = if b then { s with
        live := s.live.erase t, sent := s.sent ++ [scan.scanOf t target], phase := .joining }
      else { s with live := s.live.erase t, receiverGone := true, phase := .returned } := by
    intro b
    unfold sendReady
    simp only [he, htake]
    rfl
  refine ⟨⟨_, hrun true, h.markSent htarget, rfl, rfl, rfl, rfl, rfl⟩, ?_⟩
  rw [hrun]
  simp

end Rastreo
