import Rastreo.Prober.Snmp.Walk

/-!
# The order of the rows of a walk

A walk checks only that a name is in the subtree.  It takes the bindings of a reply as they come,
and looks at no error status but `noSuchName` of SNMPv1.  The rows of every walk are in the subtree,
but their order is the agent's (`walk_disordered`).

What an agent has to keep to is stated about each reply on its own, next to the name that was asked
for (`SnmpResponse.Follows`): a reply without an error lists names after that name, in increasing
order.  The invariant of the loop is then that the rows increase and that whatever comes after the
name asked for next comes after all of them (`RowsUpTo`).  A run of the loop keeps any such
invariant that every round keeps (`walkLoop_keeps`), and `walk_ordered` is that rule used twice,
for the subtree and for the order.
-/

namespace Rastreo

open List

/-! ## Replies in order -/

/-- The names of a reply, up to a marker of the end of the view. -/
def bindNames (binds : List VarBind) : List Oid :=
  (binds.takeWhile (·.value != .endOfMibView)).map VarBind.name

/-- A reply as a request for what follows a name has to be answered: `noSuchName` over SNMPv1, or
no error and names after the one asked for, in increasing order. -/
def SnmpResponse.Follows (resp : SnmpResponse) (asked : Oid) (isV1 : Bool) : Prop :=
  isV1 = true ∧ resp.errorStatus = v1NoSuchName ∨
    resp.errorStatus = 0 ∧ (asked :: bindNames resp.varBinds).Pairwise (· < ·)

instance (resp : SnmpResponse) (asked : Oid) (isV1 : Bool) : Decidable (resp.Follows asked isV1) :=
  inferInstanceAs (Decidable (_ ∨ _))

/-- The rows increase, and a name after `next` is after each of them. -/
structure RowsUpTo (next : Oid) (rows : List WalkRow) : Prop where
  sorted : rows.Pairwise fun x y => x.1 < y.1
  before : ∀ name, next < name → ∀ row ∈ rows, row.1 < name

/-- The rows are in the subtree. -/
def RowsBelow (base : Oid) (rows : List WalkRow) : Prop := ∀ row ∈ rows, Below base row.1

/-- What is kept when the walk goes on, and what is left when it stops. -/
def WalkStep.Keeps (keeps : Oid → List WalkRow → Prop) (leaves : List WalkRow → Prop) :
    WalkStep × List WalkRow → Prop
  | (.continue next, rows) => keeps next rows
  | (.stop, rows) => leaves rows

/-- What holds of the rows is kept and left alike. -/
lemma WalkStep.keeps_of_rows {kept : List WalkRow → Prop} {absorbed : WalkStep × List WalkRow}
    (hkept : kept absorbed.2) : WalkStep.Keeps (fun _ => kept) kept absorbed := by
  obtain ⟨_ | _, rows⟩ := absorbed
  · exact hkept
  · exact hkept

variable {base next : Oid} {maxRows : ℕ} {rows : List WalkRow}

/-- Rows up to a name are rows up to any later name. -/
lemma RowsUpTo.later (hrows : RowsUpTo next rows) {name : Oid} (hname : next < name) :
    RowsUpTo name rows :=
  ⟨hrows.sorted, fun _ hlater => hrows.before _ (List.lt_trans hname hlater)⟩

/-- A row of a later name can be added. -/
lemma RowsUpTo.push (hrows : RowsUpTo next rows) {name : Oid} (hname : next < name)
    (value : VarValue) : RowsUpTo name (rows ++ [(name, value)]) where
  sorted := pairwise_append.mpr ⟨hrows.sorted, pairwise_singleton _ _, fun row hrow _ hlast =>
    mem_singleton.mp hlast ▸ hrows.before name hname row hrow⟩
  before := fun other hother row hrow => by
    rcases mem_append.mp hrow with hold | hlast
    · exact hrows.before other (List.lt_trans hname hother) row hold
    · rw [mem_singleton.mp hlast]
      exact hother

/-- Every row a reply adds is in the subtree. -/
lemma absorbBinds_below (binds : List VarBind) (last : Option Oid)
    (hrows : RowsBelow base rows) :
    RowsBelow base (absorbBinds base maxRows binds last rows).2 := by
  have hpush : ∀ (vb : VarBind) (rows : List WalkRow), ¬ (!oidWithinSubtree base vb.name) = true →
      RowsBelow base rows → RowsBelow base (rows ++ [(vb.name, vb.value)]) := by
    intro vb rows hinside hrows row hrow
    rcases mem_append.mp hrow with hold | hnew
    · exact hrows row hold
    · rw [mem_singleton.mp hnew]
      exact oidWithinSubtree_eq_true.mp (by simpa using hinside)
  fun_induction absorbBinds base maxRows binds last rows with
  | case1 | case2 | case3 | case4 => exact hrows
  | case5 _ _ _ _ _ _ ih | case6 _ _ _ _ _ _ ih => exact ih hrows
  | case7 vb _ _ rows hinside => exact hpush vb rows hinside hrows
  | case8 vb _ _ rows hinside _ _ _ _ _ ih => exact ih (hpush vb rows hinside hrows)

/-- The bindings of a reply in order keep the rows in order, and the name asked for next is the
last of them. -/
lemma absorbBinds_ordered (binds : List VarBind) (last : Option Oid) (asked : Oid)
    (hnames : (asked :: bindNames binds).Pairwise (· < ·)) (hlast : ∀ name ∈ last, name = asked)
    (hrows : RowsUpTo asked rows) :
    WalkStep.Keeps RowsUpTo (·.Pairwise fun x y => x.1 < y.1)
      (absorbBinds base maxRows binds last rows) := by
  -- A binding that does not end the view has a name after the one asked for.
  have hcons : ∀ (vb : VarBind) (rest : List VarBind) (asked : Oid), vb.value ≠ .endOfMibView →
      (asked :: bindNames (vb :: rest)).Pairwise (· < ·) →
        asked < vb.name ∧ (vb.name :: bindNames rest).Pairwise (· < ·) := by
    intro vb rest asked hvalue hnames
    rw [bindNames, takeWhile_cons_of_pos (by simpa using hvalue), map_cons, pairwise_cons] at hnames
    exact ⟨hnames.1 _ mem_cons_self, hnames.2⟩
  fun_induction absorbBinds base maxRows binds last rows generalizing asked with
  | case1 last rows => exact hlast last rfl ▸ hrows
  | case2 | case3 | case4 => exact hrows.sorted
  | case5 vb rest _ _ _ hhole ih | case6 vb rest _ _ _ hhole ih =>
    obtain ⟨hafter, hrest⟩ := hcons vb rest asked (by simp [hhole]) hnames
    exact ih vb.name hrest (by simp) (hrows.later hafter)
  | case7 vb rest _ rows _ hend _ _ _ =>
    obtain ⟨hafter, -⟩ := hcons vb rest asked hend hnames
    exact (hrows.push hafter vb.value).sorted
  | case8 vb rest _ rows _ hend _ _ _ _ ih =>
    obtain ⟨hafter, hrest⟩ := hcons vb rest asked hend hnames
    exact ih vb.name hrest (by simp) (hrows.push hafter vb.value)

/-! ## The rounds of a walk -/

/-- The name asked for, the rows collected before, and the reply. -/
structure WalkRound where
  asked : Oid
  rows : List WalkRow
  resp : SnmpResponse

section Rounds

variable (stack : SnmpStack) (base : Oid) (bounds : WalkBounds) (useBulk : Bool) (net : WalkNet)

/-- The rounds of the loop of `walk`. -/
def walkLoopRounds : ℕ → ℕ → SnmpSession → Oid → List WalkRow → List WalkRound
  | 0, _, _, _, _ => []
  | pdus + 1, k, session, next, rows =>
    if net.remaining k = 0 then []
    else
      let pdu := walkPdu useBulk bounds next
      match snmpRequest stack session pdu net.retries (net.nets k pdu) with
      | (.error _, _) => []
      | (.ok resp, session) =>
        ⟨next, rows, resp⟩ :: match absorbBatch base resp (!useBulk) rows bounds.maxRows with
          | (.continue next, rows) => walkLoopRounds pdus (k + 1) session next rows
          | (.stop, _) => []

/-- The rounds of a whole walk. -/
def walkRounds (session : SnmpSession) : List WalkRound :=
  walkLoopRounds stack base bounds session.supportsGetbulk net bounds.maxPdus 0 session base []

variable {stack base bounds useBulk net}

/-- A run of the loop keeps what each of its rounds keeps, and returns rows that are left so. -/
lemma walkLoop_keeps (keeps : Oid → List WalkRow → Prop) (leaves : List WalkRow → Prop)
    (hleaves : ∀ next rows, keeps next rows → leaves rows) {pdus k : ℕ} {session : SnmpSession}
    {next : Oid} {rows : List WalkRow}
    (hround : ∀ round ∈ walkLoopRounds stack base bounds useBulk net pdus k session next rows,
      keeps round.asked round.rows → WalkStep.Keeps keeps leaves
        (absorbBatch base round.resp (!useBulk) round.rows bounds.maxRows))
    (hstart : keeps next rows) {all : List WalkRow}
    (hall : (walkLoop stack base bounds useBulk net pdus k session next rows).1 = .ok all) :
    leaves all := by
  -- By induction on the requests left, with the rows and the session that a round leaves.
  induction pdus generalizing k session next rows with
  | zero => exact Except.ok.inj hall ▸ hleaves next rows hstart
  | succ pdus ih =>
    rw [walkLoop] at hall
    rw [walkLoopRounds] at hround
    by_cases htime : net.remaining k = 0
    · rw [if_pos htime] at hall
      exact Except.ok.inj hall ▸ hleaves next rows hstart
    · rw [if_neg htime] at hall hround
      dsimp only at hall hround
      generalize snmpRequest stack session (walkPdu useBulk bounds next) net.retries
        (net.nets k (walkPdu useBulk bounds next)) = reply at hall hround
      obtain ⟨_ | resp, session'⟩ := reply
      · cases rows with
        | nil => cases hall
        | cons row rows => exact Except.ok.inj hall ▸ hleaves next _ hstart
      · have hfirst := hround ⟨next, rows, resp⟩ mem_cons_self hstart
        dsimp only at hall hround hfirst
        generalize absorbBatch base resp (!useBulk) rows bounds.maxRows = absorbed
          at hall hround hfirst
        obtain ⟨step, rows'⟩ := absorbed
        cases step with
        | stop => exact Except.ok.inj hall ▸ hfirst
        | «continue» next' =>
          exact ih (fun round hmem => hround round (mem_cons_of_mem _ hmem)) hfirst hall

end Rounds

/-- An error that a reply in order may report ends the walk without a row. -/
lemma absorbBatch_of_error {resp : SnmpResponse} {asked : Oid} {isV1 : Bool}
    (hfollows : resp.Follows asked isV1) (herror : resp.errorStatus ≠ 0) :
    (absorbBatch base resp isV1 rows maxRows).2 = rows := by
  obtain ⟨hv1, hstatus⟩ | ⟨hstatus, -⟩ := hfollows
  · simp [absorbBatch, hv1, hstatus]
  · exact absurd hstatus herror

/-- A reply in order keeps the rows in order. -/
lemma absorbBatch_ordered {resp : SnmpResponse} {asked : Oid} {isV1 : Bool}
    (hfollows : resp.Follows asked isV1) (hrows : RowsUpTo asked rows) :
    WalkStep.Keeps RowsUpTo (·.Pairwise fun x y => x.1 < y.1)
      (absorbBatch base resp isV1 rows maxRows) := by
  unfold absorbBatch
  split_ifs with hend
  · exact hrows.sorted
  · obtain ⟨hv1, hstatus⟩ | ⟨-, hnames⟩ := hfollows
    · exact absurd (by simp [hv1, hstatus]) hend
    · exact absorbBinds_ordered resp.varBinds none asked hnames nofun hrows

/-- A reply leaves every row in the subtree. -/
lemma absorbBatch_below (resp : SnmpResponse) (isV1 : Bool)
    (hrows : RowsBelow base rows) : WalkStep.Keeps (fun _ => RowsBelow base) (RowsBelow base)
      (absorbBatch base resp isV1 rows maxRows) := by
  refine WalkStep.keeps_of_rows ?_
  unfold absorbBatch
  split_ifs
  · exact hrows
  · exact absorbBinds_below resp.varBinds none hrows

/-- The rows of a walk are in the subtree, whatever the agent does.  If every reply keeps to the
name it was asked for, they are strictly increasing and a reply with an error status adds none. -/
theorem walk_ordered (stack : SnmpStack) (session : SnmpSession) (base : Oid)
    (bounds : WalkBounds) (net : WalkNet) :
    (∀ rows, walk stack session base bounds net = .ok rows → ∀ row ∈ rows, Below base row.1) ∧
    ((∀ round ∈ walkRounds stack base bounds net session,
        round.resp.Follows round.asked (!session.supportsGetbulk)) →
      (∀ rows, walk stack session base bounds net = .ok rows →
        rows.Pairwise fun x y => x.1 < y.1) ∧
      ∀ round ∈ walkRounds stack base bounds net session, round.resp.errorStatus ≠ 0 →
        (absorbBatch base round.resp (!session.supportsGetbulk) round.rows bounds.maxRows).2 =
          round.rows) := by
  refine ⟨fun rows hrows => ?_, fun hfollows => ⟨fun rows hrows => ?_, fun round hround => ?_⟩⟩
  · exact walkLoop_keeps (fun _ => RowsBelow base) (RowsBelow base) (fun _ _ hkept => hkept)
      (fun round _ => absorbBatch_below round.resp _) (forall_mem_nil _) hrows
  · exact walkLoop_keeps RowsUpTo (·.Pairwise fun x y => x.1 < y.1) (fun _ _ hkept => hkept.sorted)
      (fun round hround => absorbBatch_ordered (hfollows round hround)) ⟨.nil, nofun⟩ hrows
  · exact absorbBatch_of_error (hfollows round hround)

/-- The two rounds of the small table below 1.3 keep to what they were asked for. -/
theorem walk_ordered_small :
    ∃ rows, walk tableStack publicSession [1, 3]
        { maxRows := 3, maxPdus := 3, maxRepetitions := 2 } tableNet = .ok rows ∧
      rows.length = 2 ∧ rows.Pairwise fun x y => x.1 < y.1 := by
  have hordered := (walk_ordered tableStack publicSession [1, 3]
    { maxRows := 3, maxPdus := 3, maxRepetitions := 2 } tableNet).2 (by decide +kernel)
  exact ⟨[([1, 3, 1], .int 7), ([1, 3, 2], .other)], by decide +kernel, rfl,
    hordered.1 _ (by decide +kernel)⟩

/-- An agent with replies of one byte that goes backwards and then repeats the request with the
status `genErr`. -/
def disorderCodec : CommunityCodec where
  encodeV1 _ := .error "unused"
  decodeV1 _ := none
  encodeV2c _ := .ok []
  decodeV2c
    | [0] => some (tableReply [⟨[1, 3, 2], .applicationWide⟩, ⟨[1, 3, 1], .simple (.integer 7)⟩])
    | [1] => some ⟨1, [], .response ⟨0, 5, 1, [⟨[1, 3, 1], .unspecified⟩]⟩⟩
    | _ => none

/-- Backwards on the first request, failing on all others. -/
def disorderNet : WalkNet where
  timeout := 10
  retries := 0
  now := id
  nets k _ :=
    ⟨0, fun _ => none, fun _ => ⟨zeroClock, none⟩, [.datagram agentAddr [if k = 0 then 0 else 1]]⟩

/-- Over SNMPv2c rows go backwards, and the last is that of a reply with an error status. -/
theorem walk_disordered :
    walk ⟨disorderCodec, agentCodec, plainCrypto⟩ publicSession [1, 3]
        (.new 3) disorderNet =
      .ok [([1, 3, 2], .other), ([1, 3, 1], .int 7), ([1, 3, 1], .unspecified)] ∧
    (walkRounds ⟨disorderCodec, agentCodec, plainCrypto⟩ [1, 3] (.new 3) disorderNet
        publicSession).map (fun round =>
        (round.resp.errorStatus,
          (absorbBatch [1, 3] round.resp false round.rows 3).2.drop round.rows.length)) =
      [(0, [([1, 3, 2], .other), ([1, 3, 1], .int 7)]), (5, [([1, 3, 1], .unspecified)])] ∧
    ¬ ([([1, 3, 2], .other), ([1, 3, 1], .int 7), ([1, 3, 1], .unspecified)] :
      List WalkRow).Pairwise fun x y => x.1 < y.1 := by
  refine ⟨?_, ?_, ?_⟩
  · decide +kernel
  · decide +kernel
  · decide

end Rastreo
