import Rastreo.Library.Subtrees
import Rastreo.Prober.Snmp.Community
import Rastreo.Prober.Snmp.Sessions

/-!
# Walking a subtree

`walk` asks for what follows a base, then the last name it was given, until a name is outside the
subtree or the agent is at its end.  An agent that answers from a sorted table is a specification of
its own (`AgentTable.Answers`).  The entries still to come are the measure: every reply that does
not end the walk holds one.
-/

namespace Rastreo

open List

/-! ## The walk -/

def v1NoSuchName : UInt32 := 2

structure WalkBounds where
  maxRows : ℕ
  maxPdus : ℕ := 512
  maxRepetitions : UInt32 := 20

def WalkBounds.new (maxRows : ℕ) : WalkBounds := { maxRows }

abbrev WalkRow := Oid × VarValue

inductive WalkStep where
  | continue (next : Oid)
  | stop
  deriving DecidableEq

def oidWithinSubtree (base oid : Oid) : Bool :=
  base.length < oid.length && oid.take base.length == base

/-- The loop of `absorb_batch`, with the last name accepted. -/
def absorbBinds (base : Oid) (maxRows : ℕ) :
    List VarBind → Option Oid → List WalkRow → WalkStep × List WalkRow
  | [], some last, rows => (.continue last, rows)
  | [], none, rows => (.stop, rows)
  | vb :: rest, _, rows =>
    if !oidWithinSubtree base vb.name then (.stop, rows)
    else
      match vb.value with
      | .endOfMibView => (.stop, rows)
      | .noSuchObject | .noSuchInstance => absorbBinds base maxRows rest (some vb.name) rows
      | value =>
        let rows := rows ++ [(vb.name, value)]
        if maxRows ≤ rows.length then (.stop, rows)
        else absorbBinds base maxRows rest (some vb.name) rows

def absorbBatch (base : Oid) (resp : SnmpResponse) (isV1 : Bool) (rows : List WalkRow)
    (maxRows : ℕ) : WalkStep × List WalkRow :=
  if isV1 && resp.errorStatus == v1NoSuchName then (.stop, rows)
  else absorbBinds base maxRows resp.varBinds none rows

def walkPdu (useBulk : Bool) (bounds : WalkBounds) (next : Oid) : RequestPdu :=
  if useBulk then .getBulk 0 bounds.maxRepetitions [next] else .getNext [next]

inductive WalkEnd where
  /-- by the end of the subtree or view, or at `max_rows` -/
  | stopped
  | outOfPdus
  | outOfTime
  /-- a request has failed -/
  | failed
  deriving DecidableEq

/-- The clock at the start and before each request, and what each request meets. -/
structure WalkNet where
  timeout : ℕ
  retries : ℕ
  now : ℕ → ℕ
  nets : ℕ → RequestPdu → RequestNet

/-- The time left before the `k`-th request. -/
def WalkNet.remaining (net : WalkNet) (k : ℕ) : ℕ := net.now 0 + net.timeout - net.now (k + 1)

section Walk

variable (stack : SnmpStack) (base : Oid) (bounds : WalkBounds) (useBulk : Bool) (net : WalkNet)

/-- Before the `k`-th request, with how it ends. -/
def walkLoop : ℕ → ℕ → SnmpSession → Oid → List WalkRow → Except SnmpError (List WalkRow) × WalkEnd
  | 0, _, _, _, rows => (.ok rows, .outOfPdus)
  | pdus + 1, k, session, next, rows =>
    if net.remaining k = 0 then (.ok rows, .outOfTime)
    else
      let pdu := walkPdu useBulk bounds next
      match snmpRequest stack session pdu net.retries (net.nets k pdu) with
      | (.error e, _) => (if rows.isEmpty then .error e else .ok rows, .failed)
      | (.ok resp, session) =>
        match absorbBatch base resp (!useBulk) rows bounds.maxRows with
        | (.continue next, rows) => walkLoop pdus (k + 1) session next rows
        | (.stop, rows) => (.ok rows, .stopped)

end Walk

/-- `walk`, and how it ends. -/
def walkRun (stack : SnmpStack) (session : SnmpSession) (base : Oid) (bounds : WalkBounds)
    (net : WalkNet) : Except SnmpError (List WalkRow) × WalkEnd :=
  walkLoop stack base bounds session.supportsGetbulk net bounds.maxPdus 0 session base []

def walk (stack : SnmpStack) (session : SnmpSession) (base : Oid) (bounds : WalkBounds)
    (net : WalkNet) : Except SnmpError (List WalkRow) :=
  (walkRun stack session base bounds net).1

/-! ## Agents -/

/-- Not a marker in place of a value. -/
def VarValue.concrete : VarValue → Bool
  | .noSuchObject => false
  | .noSuchInstance => false
  | .endOfMibView => false
  | _ => true

/-- A finite table of named values, sorted by name. -/
structure AgentTable where
  entries : List WalkRow
  sorted : entries.Pairwise fun x y => x.1 < y.1
  concrete : ∀ e ∈ entries, e.2.concrete = true

def WalkRow.bind (e : WalkRow) : VarBind := ⟨e.1, e.2⟩

namespace AgentTable

variable (table : AgentTable)

/-- The next `n` entries, with markers after the last of the table. -/
structure Batch (name : Oid) (n : ℕ) (ends : List VarBind) (resp : SnmpResponse) : Prop where
  binds : resp.varBinds = ((successors table.entries name).take n).map WalkRow.bind ++ ends
  markers : ∀ vb ∈ ends, vb.value = .endOfMibView
  atEnd : ends ≠ [] → (successors table.entries name).length ≤ n
  nonempty : resp.varBinds ≠ []

/-- As an agent with this table answers: GETNEXT with the next entry or `noSuchName`, GETBULK with
at least one and at most `max_repetitions` entries and `endOfMibView` after the last. -/
def Answers : RequestPdu → SnmpResponse → Prop
  | .getNext [name], resp =>
    match successors table.entries name with
    | [] => resp.errorStatus = v1NoSuchName
    | e :: _ => resp = ⟨0, [WalkRow.bind e]⟩
  | .getBulk 0 maxRepetitions [name], resp =>
    resp.errorStatus = 0 ∧ resp.varBinds.length ≤ maxRepetitions.toNat ∧
      ∃ n ends, table.Batch name n ends resp
  | _, _ => True

/-- Requests are answered from the table and leave a session of the kind `sessions`. -/
structure Serves (stack : SnmpStack) (base : Oid) (bounds : WalkBounds) (useBulk : Bool)
    (net : WalkNet) (sessions : SnmpSession → Prop) : Prop where
  answers : ∀ k session name, sessions session → name = base ∨ name ∈ table.entries.map Prod.fst →
    let pdu := walkPdu useBulk bounds name
    ∃ resp session', snmpRequest stack session pdu net.retries (net.nets k pdu) =
      (.ok resp, session') ∧ table.Answers pdu resp ∧ sessions session'

end AgentTable

/-! ## What a batch adds -/

lemma oidWithinSubtree_eq_true {base oid : Oid} :
    oidWithinSubtree base oid = true ↔ Below base oid := by
  unfold oidWithinSubtree Below
  rw [Bool.and_eq_true, decide_eq_true_iff, beq_iff_eq, prefix_iff_eq_take, and_comm]
  grind

variable {maxRows : ℕ} {e : WalkRow} {rest : List VarBind} {last : Option Oid} {rows : List WalkRow}

lemma absorbBinds_entry {base : Oid} (hbelow : Below base e.1)
    (hconcrete : e.2.concrete = true) (hroom : rows.length + 1 < maxRows) :
    absorbBinds base maxRows (WalkRow.bind e :: rest) last rows =
      absorbBinds base maxRows rest (some e.1) (rows ++ [e]) := by
  obtain ⟨name, value⟩ := e
  have hwithin : oidWithinSubtree base name = true := oidWithinSubtree_eq_true.mpr hbelow
  have hlen : ¬ maxRows ≤ (rows ++ [(name, value)]).length := by grind
  cases value <;> first
    | exact absurd hconcrete Bool.false_ne_true
    | simp only [absorbBinds, WalkRow.bind, hwithin, hlen, Bool.not_true, Bool.false_eq_true,
      if_false]

lemma absorbBinds_entries {base : Oid} {entries : List WalkRow}
    (hbelow : ∀ x ∈ entries ++ [e], Below base x.1)
    (hconcrete : ∀ x ∈ entries ++ [e], x.2.concrete = true)
    (hroom : rows.length + (entries ++ [e]).length < maxRows) :
    absorbBinds base maxRows ((entries ++ [e]).map WalkRow.bind ++ rest) last rows =
      absorbBinds base maxRows rest (some e.1) (rows ++ (entries ++ [e])) := by
  induction entries generalizing last rows with
  | nil => grind [absorbBinds_entry, mem_cons_self]
  | cons x entries ih =>
    have hroom' : rows.length + 1 < maxRows := by grind
    rw [cons_append, map_cons, cons_append,
      absorbBinds_entry (hbelow x mem_cons_self) (hconcrete x mem_cons_self) hroom',
      ih (fun y hy => hbelow y (mem_cons_of_mem x hy))
        (fun y hy => hconcrete y (mem_cons_of_mem x hy)), append_assoc]
    · rfl
    · grind

lemma absorbBinds_stop {base : Oid} {vb : VarBind}
    (h : ¬ Below base vb.name ∨ vb.value = .endOfMibView) :
    absorbBinds base maxRows (vb :: rest) last rows = (.stop, rows) := by
  rw [absorbBinds]
  by_cases hwithin : oidWithinSubtree base vb.name = true
  · have hend := h.resolve_left (not_not.mpr (oidWithinSubtree_eq_true.mp hwithin))
    simp [hwithin, hend]
  · simp [hwithin]

/-! ## Rounds -/

/-- The rows are the first of the subtree, and the entries ahead the rest of it and what follows. -/
structure WalkPosition (table : AgentTable) (base next : Oid) (rows todo : List WalkRow) :
    Prop where
  known : next = base ∨ next ∈ table.entries.map Prod.fst
  rows_append : rows ++ todo = subtree table.entries base
  ahead : ∃ outside, successors table.entries next = todo ++ outside ∧
    ∀ e ∈ outside, ¬ Below base e.1

lemma walkPosition_start (table : AgentTable) (base : Oid) :
    WalkPosition table base base [] (subtree table.entries base) :=
  ⟨.inl rfl, rfl, successors_eq_subtree_append table.sorted base⟩

variable {table : AgentTable} {base next : Oid} {rows todo : List WalkRow} {bounds : WalkBounds}

lemma WalkPosition.advance {before rest : List WalkRow}
    (h : WalkPosition table base next rows (before ++ e :: rest)) :
    WalkPosition table base e.1 (rows ++ (before ++ [e])) rest := by
  obtain ⟨outside, hahead, hots⟩ := h.ahead
  have hmem : e ∈ successors table.entries next := by
    rw [hahead]
    simp
  refine ⟨.inr (mem_map_of_mem (mem_filter.mp hmem).1), ?_, outside, ?_, hots⟩
  · rw [← h.rows_append]
    simp
  · have hsplit : successors table.entries next = before ++ e :: (rest ++ outside) := by
      rw [hahead]
      simp
    exact successors_of_successors table.sorted hsplit

variable {resp : SnmpResponse}

/-- It ends the walk with the whole subtree, or adds a part with the entries after it ahead. -/
lemma WalkPosition.absorb_batch {n : ℕ} {ends : List VarBind}
    (h : WalkPosition table base next rows todo) (hbatch : table.Batch next n ends resp)
    (hrows : (subtree table.entries base).length < bounds.maxRows) :
    absorbBinds base bounds.maxRows resp.varBinds none rows = (.stop, subtree table.entries base) ∨
      ∃ next' rows' todo', WalkPosition table base next' rows' todo' ∧ todo'.length < todo.length ∧
        absorbBinds base bounds.maxRows resp.varBinds none rows = (.continue next', rows') := by
  obtain ⟨outside, hahead, hots⟩ := h.ahead
  have hbelow : ∀ x ∈ todo, Below base x.1 ∧ x.2.concrete = true := fun x hx => by
    have hmem : x ∈ subtree table.entries base := h.rows_append ▸ mem_append_right rows hx
    obtain ⟨hentry, hsub⟩ := mem_filter.mp hmem
    exact ⟨of_decide_eq_true hsub, table.concrete x hentry⟩
  have hbinds := hbatch.binds
  rw [hahead, take_append, map_append, append_assoc] at hbinds
  -- After the part of the subtree come entries outside it and markers of the end.
  have hstops : ∀ vb ∈ (outside.take (n - todo.length)).map WalkRow.bind ++ ends,
      ¬ Below base vb.name ∨ vb.value = .endOfMibView := by
    intro vb hvb
    rcases mem_append.mp hvb with hvb | hvb
    · obtain ⟨x, hx, rfl⟩ := mem_map.mp hvb
      exact .inl (hots x (mem_of_mem_take hx))
    · exact .inr (hbatch.markers vb hvb)
  have hall : (outside.take (n - todo.length)).map WalkRow.bind ++ ends ≠ [] →
      todo.take n = todo := by
    intro htail
    refine take_of_length_le ?_
    by_contra hlt
    have hzero : n - todo.length = 0 := by omega
    rw [hzero, take_zero, map_nil, nil_append] at htail
    have hlen := hbatch.atEnd htail
    grind
  generalize (outside.take (n - todo.length)).map WalkRow.bind ++ ends = tail at hbinds hstops hall
  rcases eq_nil_or_concat (todo.take n) with hnil | ⟨before, e, hconcat⟩
  · rw [hnil, map_nil, nil_append] at hbinds
    cases tail with
    | nil => exact absurd hbinds hbatch.nonempty
    | cons vb rest =>
      have htodo : todo = [] := (hall (cons_ne_nil vb rest)).symm.trans hnil
      rw [hbinds, absorbBinds_stop (hstops vb mem_cons_self), ← h.rows_append, htodo, append_nil]
      exact .inl rfl
  · rw [concat_eq_append] at hconcat
    have hmem : ∀ x ∈ before ++ [e], x ∈ todo := fun x hx =>
      mem_of_mem_take (hconcat ▸ hx)
    have hlen : (before ++ [e]).length ≤ todo.length := hconcat ▸ length_take_le' n todo
    have hroom : rows.length + (before ++ [e]).length < bounds.maxRows := by
      rw [← h.rows_append, length_append] at hrows
      omega
    rw [hbinds, hconcat, absorbBinds_entries (fun x hx => (hbelow x (hmem x hx)).1)
      (fun x hx => (hbelow x (hmem x hx)).2) hroom]
    cases tail with
    | nil =>
      have hsplit : todo = before ++ e :: todo.drop n := by
        rw [append_cons, ← hconcat, take_append_drop]
      rw [hsplit] at h
      refine .inr ⟨e.1, _, todo.drop n, h.advance, ?_, rfl⟩
      grind
    | cons vb rest =>
      rw [absorbBinds_stop (hstops vb mem_cons_self), ← hconcat,
        hall (cons_ne_nil vb rest), h.rows_append]
      exact .inl rfl

/-- It ends the walk with the whole subtree, or leaves the entries after one of it ahead. -/
lemma WalkPosition.absorb {useBulk : Bool} (h : WalkPosition table base next rows todo)
    (hanswers : table.Answers (walkPdu useBulk bounds next) resp)
    (hrows : (subtree table.entries base).length < bounds.maxRows) :
    absorbBatch base resp (!useBulk) rows bounds.maxRows = (.stop, subtree table.entries base) ∨
      ∃ next' rows' todo', WalkPosition table base next' rows' todo' ∧ todo'.length < todo.length ∧
        absorbBatch base resp (!useBulk) rows bounds.maxRows = (.continue next', rows') := by
  cases useBulk with
  | true =>
    obtain ⟨-, -, n, ends, hbatch⟩ := hanswers
    exact h.absorb_batch hbatch hrows
  | false =>
    obtain ⟨outside, hahead, -⟩ := h.ahead
    change (match successors table.entries next with
      | [] => resp.errorStatus = v1NoSuchName
      | e :: _ => resp = ⟨0, [WalkRow.bind e]⟩) at hanswers
    split at hanswers
    next hnil =>
      have htodo : todo = [] := (append_eq_nil_iff.mp (hahead.symm.trans hnil)).1
      left
      rw [← h.rows_append, htodo, append_nil]
      simp [absorbBatch, hanswers]
    next e rest hcons =>
      subst hanswers
      have hbatch : table.Batch next 1 [] ⟨0, [WalkRow.bind e]⟩ :=
        ⟨by rw [hcons]; rfl, nofun, fun h => absurd rfl h, nofun⟩
      exact h.absorb_batch hbatch hrows

/-! ## The whole walk -/

/-- The loop does not fail, has the whole subtree when it stops, and stops when there are more
requests than entries ahead and the time does not lapse. -/
lemma WalkPosition.walkLoop_spec {stack : SnmpStack} {useBulk : Bool} {net : WalkNet}
    {sessions : SnmpSession → Prop} (hserves : table.Serves stack base bounds useBulk net sessions)
    (hrows : (subtree table.entries base).length < bounds.maxRows) (pdus k : ℕ)
    {session : SnmpSession} (hsession : sessions session)
    (h : WalkPosition table base next rows todo) :
    let run := walkLoop stack base bounds useBulk net pdus k session next rows
    run.2 ≠ .failed ∧ (run.2 = .stopped → run.1 = .ok (subtree table.entries base)) ∧
      (todo.length < pdus → (∀ j ≤ k + todo.length, 0 < net.remaining j) → run.2 = .stopped) := by
  induction pdus generalizing k session next rows todo with
  | zero => exact ⟨nofun, nofun, fun hlt => absurd hlt (Nat.not_lt_zero _)⟩
  | succ pdus ih =>
    rw [walkLoop]
    by_cases htime : net.remaining k = 0
    · rw [if_pos htime]
      grind
    · obtain ⟨resp, session', hreq, hans, hses'⟩ :=
        hserves.answers k session next hsession h.known
      rw [if_neg htime]
      dsimp only
      rw [hreq]
      dsimp only
      obtain hstop | ⟨next', rows', todo', hpos, hlt, hgoes⟩ := h.absorb hans hrows
      · rw [hstop]
        simp
      · rw [hgoes]
        obtain ⟨hfailed, hsto, henough⟩ := ih (k + 1) hses' hpos
        refine ⟨hfailed, hsto, fun hpdus hahead => henough (by omega) fun j hj => ?_⟩
        exact hahead j (by omega)

/-- Over an agent with a sorted table, with more rows allowed than the subtree has, a walk ends with
exactly the entries below the base, in order, unless requests or time run out; neither does with
more requests than entries and the deadline ahead before each. -/
theorem walk_complete (table : AgentTable) (stack : SnmpStack) (session : SnmpSession) (base : Oid)
    (bounds : WalkBounds) (net : WalkNet) (sessions : SnmpSession → Prop)
    (hsession : sessions session)
    (hserves : table.Serves stack base bounds session.supportsGetbulk net sessions)
    (hrows : (subtree table.entries base).length < bounds.maxRows) :
    ((walkRun stack session base bounds net).2 ≠ .outOfPdus →
      (walkRun stack session base bounds net).2 ≠ .outOfTime →
        walk stack session base bounds net = .ok (subtree table.entries base)) ∧
      ((subtree table.entries base).length < bounds.maxPdus →
        (∀ k ≤ (subtree table.entries base).length, 0 < net.remaining k) →
          walk stack session base bounds net = .ok (subtree table.entries base)) := by
  obtain ⟨hfailed, hsto, henough⟩ :=
    (walkPosition_start table base).walkLoop_spec hserves hrows bounds.maxPdus 0 hsession
  rw [Nat.zero_add] at henough
  refine ⟨fun hpdus htime => hsto ?_, fun hpdus htime => hsto (henough hpdus htime)⟩
  have hfailed : (walkRun stack session base bounds net).2 ≠ .failed := hfailed
  change (walkRun stack session base bounds net).2 = .stopped
  cases hend : (walkRun stack session base bounds net).2 with
  | stopped => rfl
  | outOfPdus => exact absurd hend hpdus
  | outOfTime => exact absurd hend htime
  | failed => exact absurd hend hfailed

/-- A table with two entries below 1.3 and one after them. -/
def smallTable : AgentTable where
  entries := [([1, 3, 1], .int 7), ([1, 3, 2], .other), ([1, 4], .other)]
  sorted := by decide
  concrete := by decide

def tableReply (binds : List V2VarBind) : CommunityMessage V2Pdus :=
  ⟨1, [], .response ⟨0, 0, 0, binds⟩⟩

/-- The replies of the small table have one byte each. -/
def tableCodec : CommunityCodec where
  encodeV1 _ := .error "unused"
  decodeV1 _ := none
  encodeV2c _ := .ok []
  decodeV2c
    | [0] => some (tableReply [⟨[1, 3, 1], .simple (.integer 7)⟩, ⟨[1, 3, 2], .applicationWide⟩])
    | [1] => some (tableReply [⟨[1, 3, 2], .applicationWide⟩])
    | [2] => some (tableReply [⟨[1, 4], .applicationWide⟩])
    | [3] => some (tableReply [⟨[1, 4], .endOfMibView⟩])
    | _ => none

def tableStack : SnmpStack := ⟨tableCodec, agentCodec, plainCrypto⟩

/-- SNMPv2c with the agent of the small table. -/
def publicSession : SnmpSession := ⟨agentAddr, .community .v2c "public"⟩

/-- The small table answers GETBULK with at most two bindings. -/
def tableNet : WalkNet where
  timeout := 10
  retries := 0
  now := id
  nets _ pdu :=
    let reply : UInt8 :=
      if pdu = .getBulk 0 2 [[1, 3]] then 0
      else if pdu = .getBulk 0 2 [[1, 3, 1]] then 1
      else if pdu = .getBulk 0 2 [[1, 3, 2]] then 2
      else 3
    ⟨0, fun _ => none, fun _ => ⟨zeroClock, none⟩, [.datagram agentAddr [reply]]⟩

lemma snmpRequest_tableNet {k : ℕ} {name : Oid} {reply : UInt8}
    (hevents : (tableNet.nets k (.getBulk 0 2 [name])).events = [.datagram agentAddr [reply]])
    (hreply : decodeCommunityResponse tableCodec .v2c [reply] (newRequestId 0 agentAddr.port) =
      .response resp) :
    snmpRequest tableStack publicSession (.getBulk 0 2 [name]) tableNet.retries
        (tableNet.nets k (.getBulk 0 2 [name])) = (.ok resp, publicSession) := by
  have hexc : communityExchange tableCodec agentAddr .v2c "public" (.getBulk 0 2 [name])
      tableNet.retries (tableNet.nets k (.getBulk 0 2 [name])) = .ok resp :=
    communityExchange_of_reply rfl rfl hevents rfl hreply
  exact Prod.ext hexc rfl

/-- The walk below 1.3 of the small table over SNMPv2c. -/
theorem walk_complete_small :
    walk tableStack publicSession [1, 3] { maxRows := 3, maxPdus := 3, maxRepetitions := 2 }
        tableNet = .ok [([1, 3, 1], .int 7), ([1, 3, 2], .other)] := by
  refine (walk_complete smallTable _ _ [1, 3] _ tableNet (· = publicSession) rfl ⟨?_⟩
    (by decide)).2 (by decide) (by decide)
  rintro k session name rfl hname
  have hcases : name = [1, 3] ∨ name = [1, 3, 1] ∨ name = [1, 3, 2] ∨ name = [1, 4] := by
    simpa [smallTable] using hname
  rcases hcases with rfl | rfl | rfl | rfl
  · exact ⟨⟨0, [⟨[1, 3, 1], .int 7⟩, ⟨[1, 3, 2], .other⟩]⟩, _,
      snmpRequest_tableNet rfl (by decide +kernel),
      ⟨rfl, by decide, 2, [], by decide, nofun, nofun, nofun⟩, rfl⟩
  · exact ⟨⟨0, [⟨[1, 3, 2], .other⟩]⟩, _, snmpRequest_tableNet rfl (by decide +kernel),
      ⟨rfl, by decide, 1, [], by decide, nofun, nofun, nofun⟩, rfl⟩
  · exact ⟨⟨0, [⟨[1, 4], .other⟩]⟩, _, snmpRequest_tableNet rfl (by decide +kernel),
      ⟨rfl, by decide, 1, [], by decide, nofun, nofun, nofun⟩, rfl⟩
  · exact ⟨⟨0, [⟨[1, 4], .endOfMibView⟩]⟩, _, snmpRequest_tableNet rfl (by decide +kernel),
      ⟨rfl, by decide, 0, [⟨[1, 4], .endOfMibView⟩], by decide, by decide, by decide, nofun⟩, rfl⟩

end Rastreo
