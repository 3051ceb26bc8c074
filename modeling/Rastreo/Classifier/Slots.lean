import Rastreo.Classifier.Rules
import Rastreo.Fuser.Aliases

/-!
# The slots of a classifier

One pass over the platform rules fills three slots, with flags for those still wanted.  It comes to
three searches (`fillSlot`): each empty slot is written by the first rule that serves it and
matches, whatever the other rules are (`classifier_slots`).
-/

namespace Rastreo

open List

/-! ## Subtrees -/

def arcs (oid : String) : List String := splitChar '.' oid

lemma splitOn_isPrefix_iff (c : Char) (s t : List Char) :
    s.splitOn c <+: t.splitOn c ↔ s <+: t ∧ (t.drop s.length).head?.elim true (· = c) = true := by
  have hcons : ∀ (x : Char) (l : List Char), ∃ part parts, l.splitOn c = part :: parts ∧
      (x :: l).splitOn c = if x = c then [] :: part :: parts else (x :: part) :: parts := by
    intro x l
    obtain ⟨part, parts, hl⟩ := exists_cons_of_ne_nil (splitOn_ne_nil c l)
    refine ⟨part, parts, hl, ?_⟩
    rw [List.splitOn] at hl ⊢
    rw [splitOnP_cons_eq_if_modifyHead, hl, modifyHead_cons]
    simp only [beq_iff_eq]
  induction s generalizing t with
  | nil =>
    cases t with
    | nil => simp
    | cons y t =>
      obtain ⟨part, parts, -, hy⟩ := hcons y t
      rw [hy]
      split_ifs with hc <;> simp [cons_prefix_cons, hc]
  | cons x s ih =>
    obtain ⟨part, parts, hs, hx⟩ := hcons x s
    cases t with
    | nil =>
      rw [hx, splitOn_nil]
      grind
    | cons y t =>
      obtain ⟨part', parts', ht, hy⟩ := hcons y t
      have htail := ih t
      rw [hs, ht, cons_prefix_cons] at htail
      rw [hx, hy, length_cons, drop_succ_cons, cons_prefix_cons (a := x), and_assoc]
      refine Iff.trans ?_ (and_congr_right' htail)
      split_ifs with hxc hyc hyc
      · grind
      · grind
      · grind
      · grind

lemma hasArcPrefix_eq {subtree : String} (valid : isDottedDecimal subtree = true) (oid : String) :
    hasArcPrefix oid subtree = .ok (decide (arcs subtree <+: arcs oid)) := by
  have harcs : arcs subtree <+: arcs oid ↔ _ :=
    (prefix_map_iff_of_injective fun _ _ h => String.ofList_injective h).trans
      (splitOn_isPrefix_iff '.' subtree.toList oid.toList)
  rw [hasArcPrefix, valid, Bool.not_true, if_neg Bool.false_ne_true]
  split_ifs with hstarts
  · grind
  · grind

section Slots

variable {engine : RegexEngine}

/-! ## Searches -/

variable (self : CompiledRule engine) (signals : List Signal)

/-- The first signal text matched, and the offsets of its groups. -/
def CompiledRule.matched : Option (String × List (Option (ℕ × ℕ))) :=
  (signals.filterMap (signalTextFor self.signal)).findSome? fun text =>
    (engine.capturesRead self.regex text).map (text, ·)

def groupText (text : String) (locs : List (Option (ℕ × ℕ))) (group : CaptureGroup) :
    Option String :=
  (group.index?.bind fun i => (locs[i]?).join).bind fun span =>
    (sliceText text span.1 span.2).toOption

def CompiledRule.captured (group : CaptureGroup) : Option String :=
  (self.matched signals).bind fun m => groupText m.1 m.2 group

def CompiledRule.servesPlatform : Bool := self.platform.isSome

/-- A rule that declares a capture of the SSH version. -/
def CompiledRule.servesSsh : Bool := self.sshVersionGroup.isDeclared

/-- A rule that declares a capture of the HTTP server. -/
def CompiledRule.servesHttp : Bool := self.httpServerGroup.isDeclared

def CompiledRule.writePlatform (self : CompiledRule engine)
    (slot : Option String × Option String) : Option String × Option String :=
  (self.platform, (self.captured signals self.osVersionGroup).or slot.2)

def CompiledRule.writeSsh (self : CompiledRule engine) (slot : Option String) : Option String :=
  (self.captured signals self.sshVersionGroup).or slot

/-- The server, if there is one, with its version if there is one. -/
def CompiledRule.writeHttp (self : CompiledRule engine)
    (slot : Option String × Option String) : Option String × Option String :=
  match self.captured signals self.httpServerGroup with
  | none => slot
  | some server => (some server, (self.captured signals self.httpVersionGroup).or slot.2)

/-- A wanted slot is written by the first rule that serves it and matches. -/
def fillSlot {α : Type} (serves : CompiledRule engine → Bool) (write : CompiledRule engine → α → α)
    (rules : List (CompiledRule engine)) (signals : List Signal) (wanted : Bool) (slot : α) : α :=
  if wanted then
    match rules.find? fun rule => serves rule && (rule.matched signals).isSome with
    | none => slot
    | some rule => write rule slot
  else slot

def DeviceRecord.filledBy (record : DeviceRecord) (rules : List (CompiledRule engine))
    (want : Claims) : DeviceRecord :=
  let signals := record.signals
  let platform := fillSlot CompiledRule.servesPlatform (CompiledRule.writePlatform signals) rules
    signals want.platform (record.platform, record.osVersion)
  let ssh := fillSlot CompiledRule.servesSsh (CompiledRule.writeSsh signals) rules
    signals want.sshVersion record.sshVersion
  let http := fillSlot CompiledRule.servesHttp (CompiledRule.writeHttp signals) rules
    signals want.httpServer (record.httpServer, record.httpVersion)
  { record with
    platform := platform.1
    osVersion := platform.2
    sshVersion := ssh
    httpServer := http.1
    httpVersion := http.2 }

def CompiledRoleRule.applies : CompiledRoleRule engine → Bool
  | .sysObjectIdPrefix subtree _ _ =>
    signals.any fun s =>
      match s with
      | .snmpSysObjectId oid => decide (arcs subtree <+: arcs oid)
      | _ => false
  | .signalMatch signal regex _ =>
    (signals.filterMap (signalTextFor signal)).any (engine.isMatch regex)
  | .portsOpen ports _ => ports.all fun want => signals.any (· = .openPort want)

/-- Each slot is as it was if filled, else given by the first rule for it. -/
def DeviceRecord.classified (record : DeviceRecord) (platformRules : List (CompiledRule engine))
    (roleRules : List (CompiledRoleRule engine)) : DeviceRecord :=
  let want : Claims :=
    ⟨record.platform.isNone, record.sshVersion.isNone, record.httpServer.isNone⟩
  { record.filledBy platformRules want with
    role := record.role.or ((roleRules.find? (·.applies record.signals)).map roleOf) }

/-! ## The loop -/

lemma capturedGroup_eq {regex : engine.Regex} {text : String} {locs : List (Option (ℕ × ℕ))}
    (hlocs : engine.capturesRead regex text = some locs) (wanted : Bool) (group : CaptureGroup) :
    capturedGroup text locs wanted group =
      .ok (if wanted then groupText text locs group else none) := by
  obtain ⟨value, hval⟩ := capturedGroup_ok hlocs wanted group
  rw [hval]
  cases wanted with
  | false => exact hval.symm
  | true =>
    rw [if_pos rfl, groupText]
    simp only [capturedGroup, Bool.not_true, Bool.false_eq_true, if_false] at hval
    split at hval
    next hnone =>
      rw [hnone]
      exact hval.symm
    next start stop hspan =>
      rw [hspan]
      obtain ⟨inside, hslice, rfl⟩ := map_eq_ok.mp hval
      rw [Option.bind_some, hslice]
      rfl

def CompiledRule.found (claims : Claims) : PlatformMatch where
  osVersion := if claims.platform then self.captured signals self.osVersionGroup else none
  sshVersion := if claims.sshVersion then self.captured signals self.sshVersionGroup else none
  httpServer := if claims.httpServer then self.captured signals self.httpServerGroup else none
  httpVersion := if claims.httpServer then self.captured signals self.httpVersionGroup else none

lemma platformRuleMatch_eq (rule : CompiledRule engine) (record : DeviceRecord) (claims : Claims) :
    platformRuleMatch rule record claims =
      .ok ((rule.matched record.signals).map fun _ => rule.found record.signals claims) := by
  unfold platformRuleMatch CompiledRule.found CompiledRule.captured CompiledRule.matched
  generalize record.signals.filterMap (signalTextFor rule.signal) = texts
  induction texts with
  | nil => rfl
  | cons text rest ih =>
    rw [CompiledRule.searchTexts, findSome?_cons, CompiledRule.search]
    cases hlocs : engine.capturesRead rule.regex text with
    | none => exact ih
    | some locs =>
      simp only [capturedGroup_eq hlocs, ok_bind]
      rfl

section Step

variable {α : Type} {serves : CompiledRule engine → Bool} {write : CompiledRule engine → α → α}
  {rule : CompiledRule engine} {rest : List (CompiledRule engine)} {signals : List Signal}
  {wanted : Bool} {slot : α}

/-- Rules that do not match, or claim nothing, are skipped. -/
lemma fillSlot_skip (h : (rule.matched signals).isSome = false ∨ (wanted && serves rule) = false) :
    fillSlot serves write (rule :: rest) signals wanted slot =
      fillSlot serves write rest signals wanted slot := by
  unfold fillSlot
  cases wanted with
  | false => rfl
  | true =>
    have hskip : (serves rule && (rule.matched signals).isSome) = false := by
      rcases h with h | h
      · rw [h, Bool.and_false]
      · grind
    grind

/-- What a matching rule claims is written and no longer wanted. -/
lemma fillSlot_step (h : (rule.matched signals).isSome = true) :
    fillSlot serves write (rule :: rest) signals wanted slot =
      fillSlot serves write rest signals (wanted && !(wanted && serves rule))
        (if wanted && serves rule then write rule slot else slot) := by
  cases hclaims : wanted && serves rule with
  | false =>
    rw [fillSlot_skip (.inr hclaims), Bool.not_false, Bool.and_true]
    rfl
  | true =>
    obtain ⟨rfl, hserves⟩ := (Bool.and_eq_true_iff).mp hclaims
    unfold fillSlot
    rw [find?_cons_of_pos (by rw [hserves, h]; rfl)]
    rfl

lemma fillSlot_congr {rules rules' : List (CompiledRule engine)}
    (h : rules'.filter serves = rules.filter serves) :
    fillSlot serves write rules' signals wanted slot =
      fillSlot serves write rules signals wanted slot := by
  have hfind : ∀ l : List (CompiledRule engine),
      l.find? (fun r => serves r && (r.matched signals).isSome) =
        (l.filter serves).find? fun r => (r.matched signals).isSome := by
    intro l
    rw [find?_filter]
    congr 1
    funext r
    cases serves r <;> simp
  rw [fillSlot, fillSlot, hfind, hfind, h]

variable (serves) in
lemma fillSlot_again (hwrite : ∀ rule x, write rule (write rule x) = write rule x)
    (rules : List (CompiledRule engine)) (signals : List Signal) (value : α → Option String)
    (slot : α) :
    let slot' := fillSlot serves write rules signals (value slot).isNone slot
    fillSlot serves write rules signals (value slot').isNone slot' = slot' := by
  intro slot'
  cases hwanted : (value slot).isNone with
  | false =>
    have hslot' : slot' = slot := by grind [fillSlot]
    rw [hslot', hwanted]
    rfl
  | true =>
    have hslot' : slot' = fillSlot serves write rules signals true slot := hwanted ▸ rfl
    cases (value slot').isNone with
    | false => rfl
    | true =>
      rw [hslot', fillSlot, fillSlot, if_pos rfl, if_pos rfl]
      split
      · rfl
      · exact hwrite _ _

end Step

lemma fill_eq (record : DeviceRecord) (rule : CompiledRule engine) (claims : Claims) :
    record.fill rule claims (rule.found record.signals claims) =
      let platform := if claims.platform then
        rule.writePlatform record.signals (record.platform, record.osVersion)
        else (record.platform, record.osVersion)
      let ssh := if claims.sshVersion then rule.writeSsh record.signals record.sshVersion
        else record.sshVersion
      let http := if claims.httpServer then
        rule.writeHttp record.signals (record.httpServer, record.httpVersion)
        else (record.httpServer, record.httpVersion)
      { record with
        platform := platform.1
        osVersion := platform.2
        sshVersion := ssh
        httpServer := http.1
        httpVersion := http.2 } := by
  obtain ⟨platform, ssh, http⟩ := claims
  unfold DeviceRecord.fill CompiledRule.found CompiledRule.writeHttp
  cases http with
  | false => cases platform <;> cases ssh <;> rfl
  | true =>
    cases hserver : rule.captured record.signals rule.httpServerGroup with
    | none => cases platform <;> cases ssh <;> rfl
    | some server => cases platform <;> cases ssh <;> rfl

lemma applyPlatformRules_eq (rules : List (CompiledRule engine)) (want : Claims)
    (record : DeviceRecord) :
    applyPlatformRules rules want record = .ok (record.filledBy rules want) := by
  induction rules generalizing want record with
  | nil =>
    obtain ⟨platform, ssh, http⟩ := want
    cases platform <;> cases ssh <;> cases http <;> rfl
  | cons rule rest ih =>
    rw [applyPlatformRules]
    split_ifs with hwant
    · obtain ⟨platform, ssh, http⟩ := want
      simp only [Claims.any, Bool.not_eq_true', Bool.or_eq_false_iff] at hwant
      obtain ⟨⟨rfl, rfl⟩, rfl⟩ := hwant
      rfl
    · dsimp only
      split_ifs with hclaims
      · simp only [Claims.any, Bool.not_eq_true', Bool.or_eq_false_iff] at hclaims
        obtain ⟨⟨hpla, hssh⟩, hhttp⟩ := hclaims
        rw [ih, DeviceRecord.filledBy, DeviceRecord.filledBy, fillSlot_skip (.inr hpla),
          fillSlot_skip (.inr hssh), fillSlot_skip (.inr hhttp)]
      · rw [platformRuleMatch_eq, ok_bind]
        cases hmat : rule.matched record.signals with
        | none =>
          have hnone : (rule.matched record.signals).isSome = false := by rw [hmat]; rfl
          rw [Option.map_none]
          grind [DeviceRecord.filledBy, fillSlot_skip]
        | some m =>
          have hsome : (rule.matched record.signals).isSome = true := by rw [hmat]; rfl
          rw [Option.map_some]
          dsimp only
          rw [ih, fill_eq]
          simp only [DeviceRecord.filledBy, fillSlot_step hsome]
          rfl

/-! ## Roles -/

lemma roleRuleMatches_eq (rule : CompiledRoleRule engine) (record : DeviceRecord) :
    roleRuleMatches rule record = .ok (rule.applies record.signals) := by
  cases rule with
  | sysObjectIdPrefix subtree role valid =>
    refine anyM_eq_any (fun s => ?_) record.signals
    grind [hasArcPrefix_eq]
  | signalMatch signal regex role => rfl
  | portsOpen ports role => rfl

variable (rules : List (CompiledRoleRule engine))

lemma firstRole_eq (record : DeviceRecord) :
    firstRole rules record = .ok ((rules.find? (·.applies record.signals)).map roleOf) := by
  induction rules with
  | nil => rfl
  | cons rule rest ih =>
    rw [firstRole, roleRuleMatches_eq, ok_bind, find?_cons]
    cases rule.applies record.signals with
    | true => rfl
    | false => exact ih

lemma applyRoleRules_eq (record : DeviceRecord) : applyRoleRules rules record = .ok { record with
        role := record.role.or ((rules.find? (·.applies record.signals)).map roleOf) } := by
  rw [applyRoleRules, firstRole_eq]
  cases hrole : record.role with
  | some role =>
    rw [Option.isSome_some, if_pos rfl, Option.some_or, ← hrole]
  | none =>
    rw [Option.isSome_none, if_neg Bool.false_ne_true, ok_bind, Option.none_or]
    cases rules.find? (·.applies record.signals) with
    | none =>
      have hsame : { record with role := none } = record := by rw [← hrole]
      rw [Option.map_none, hsame]
      rfl
    | some rule => rfl

variable (platformRules : List (CompiledRule engine)) (roleRules : List (CompiledRoleRule engine))

lemma classify_eq (record : DeviceRecord) :
    (Classifier.rules platformRules roleRules).classify record =
      .ok (record.classified platformRules roleRules) := by
  rw [Classifier.classify, applyPlatformRules_eq]
  change (applyRoleRules roleRules _).mapError FuserFault.panic = _
  rw [applyRoleRules_eq]
  rfl

lemma classified_classified (record : DeviceRecord) :
    (record.classified platformRules roleRules).classified platformRules roleRules =
      record.classified platformRules roleRules := by
  have hor : ∀ a b : Option String, a.or (a.or b) = a.or b := by
    intro a b
    grind
  have hpla : ∀ (rule : CompiledRule engine) x, rule.writePlatform record.signals
      (rule.writePlatform record.signals x) = rule.writePlatform record.signals x :=
    fun rule x => Prod.ext rfl (hor _ x.2)
  have hssh : ∀ (rule : CompiledRule engine) x, rule.writeSsh record.signals
      (rule.writeSsh record.signals x) = rule.writeSsh record.signals x := fun rule x => hor _ x
  have hhttp : ∀ (rule : CompiledRule engine) x, rule.writeHttp record.signals
      (rule.writeHttp record.signals x) = rule.writeHttp record.signals x := by
    intro rule x
    unfold CompiledRule.writeHttp
    grind
  have hrole : ∀ a b : Option String, (a.or b).or b = a.or b := by
    intro a b
    grind
  have hpla' := fillSlot_again CompiledRule.servesPlatform hpla platformRules
    record.signals Prod.fst (record.platform, record.osVersion)
  have hssh' := fillSlot_again CompiledRule.servesSsh hssh platformRules record.signals id
    record.sshVersion
  have hhttp' := fillSlot_again CompiledRule.servesHttp hhttp platformRules record.signals Prod.fst
    (record.httpServer, record.httpVersion)
  simp only [id] at hpla' hssh' hhttp'
  simp only [DeviceRecord.classified, DeviceRecord.filledBy, Prod.mk.eta, hpla', hssh', hhttp',
    hrole]

/-- Each empty slot is filled by the first rule for it that matches, whatever the other rules;
identifiers are matched by whole arcs; classifying again changes nothing. -/
theorem classifier_slots (platformRules : List (CompiledRule engine))
    (roleRules : List (CompiledRoleRule engine)) (record : DeviceRecord) :
    let result := record.classified platformRules roleRules
    (Classifier.rules platformRules roleRules).classify record = .ok result ∧
      (∀ platformRules' roleRules', let result' := record.classified platformRules' roleRules'
        (platformRules'.filter (·.servesPlatform) = platformRules.filter (·.servesPlatform) →
          result'.platform = result.platform ∧ result'.osVersion = result.osVersion) ∧
        (platformRules'.filter (·.servesSsh) = platformRules.filter (·.servesSsh) →
          result'.sshVersion = result.sshVersion) ∧
        (platformRules'.filter (·.servesHttp) = platformRules.filter (·.servesHttp) →
          result'.httpServer = result.httpServer ∧ result'.httpVersion = result.httpVersion) ∧
        (roleRules' = roleRules → result'.role = result.role)) ∧
      (∀ subtree role valid,
        roleRuleMatches (.sysObjectIdPrefix subtree role valid : CompiledRoleRule engine) record =
            .ok true ↔
          ∃ oid, .snmpSysObjectId oid ∈ record.signals ∧ arcs subtree <+: arcs oid) ∧
      (Classifier.rules platformRules roleRules).classify result = .ok result := by
  intro result
  refine ⟨classify_eq _ _ _, fun platformRules' roleRules' => ⟨?_, ?_, ?_, ?_⟩, ?_, ?_⟩
  · intro hsame
    exact ⟨congrArg Prod.fst (fillSlot_congr hsame), congrArg Prod.snd (fillSlot_congr hsame)⟩
  · exact fillSlot_congr
  · intro hsame
    exact ⟨congrArg Prod.fst (fillSlot_congr hsame), congrArg Prod.snd (fillSlot_congr hsame)⟩
  · rintro rfl
    rfl
  · intro subtree role valid
    rw [roleRuleMatches_eq, Except.ok.injEq, CompiledRoleRule.applies, any_eq_true]
    constructor
    · rintro ⟨signal, hmem, hsignal⟩
      cases signal with
      | snmpSysObjectId oid => exact ⟨oid, hmem, of_decide_eq_true hsignal⟩
      | _ => cases hsignal
    · rintro ⟨oid, hmem, harcs⟩
      exact ⟨_, hmem, decide_eq_true harcs⟩
  · exact (classify_eq _ _ _).trans (congrArg Except.ok (classified_classified _ _ record))

end Slots

/-! ## A router -/

/-- One text matches, with the whole of it as the only group. -/
def literalEngine : RegexEngine where
  Regex := String
  compile := .ok
  captureNames _ := [none]
  capturesRead regex text := if text = regex then some [some (0, utf8Len text.toList)] else none
  isMatch regex text := text = regex
  span := by
    intro regex text locs start stop hlocs hmem
    split_ifs at hlocs
    obtain rfl := Option.some.inj hlocs
    obtain ⟨rfl, rfl⟩ := Prod.mk.inj (Option.some.inj (mem_singleton.mp hmem))
    exact ⟨[], text.toList, [], by simp, rfl, (Nat.zero_add _).symm⟩

def sshOnlyRule : CompiledRule literalEngine :=
  ⟨.sshBanner, "SSH-2.0-Cisco", none, .undeclared, .index 0, .undeclared, .undeclared⟩

def iosRule : CompiledRule literalEngine :=
  ⟨.snmpSysDescr, "Cisco IOS", some "cisco_ios", .undeclared, .undeclared, .undeclared, .undeclared⟩

def routerRecord : DeviceRecord :=
  sampleRecord ⟨"ip:10.0.0.9", by decide⟩ 0x0a000009#32
    [.snmpSysDescr "Cisco IOS", .sshBanner "SSH-2.0-Cisco", .snmpSysObjectId "1.3.6.1.4.1.9.1.5"]
    ⟨7 / 10, by norm_num, by norm_num⟩

/-- Two slots, and the platform without the rule for the other. -/
theorem classifier_slots_router :
    let roles := [.sysObjectIdPrefix "1.3.6.1.4.1.9.1" "router" (by decide +kernel)]
    (Classifier.rules [sshOnlyRule, iosRule] roles).classify routerRecord = .ok { routerRecord with
          platform := some "cisco_ios"
          sshVersion := some "SSH-2.0-Cisco"
          role := some "router" } ∧
      (routerRecord.classified [iosRule] roles).platform =
        (routerRecord.classified [sshOnlyRule, iosRule] roles).platform ∧
      roleRuleMatches (.sysObjectIdPrefix "1.3.6.1.4.1.9.1" "router" (by decide +kernel) :
        CompiledRoleRule literalEngine) routerRecord = .ok true := by
  intro roles
  obtain ⟨hcla, hslots, hsub, -⟩ :=
    classifier_slots [sshOnlyRule, iosRule] roles routerRecord
  refine ⟨hcla.trans (by decide +kernel), ((hslots [iosRule] roles).1 rfl).1, ?_⟩
  exact (hsub _ _ _).mpr ⟨"1.3.6.1.4.1.9.1.5", by decide +kernel, by decide +kernel⟩

end Rastreo
