import Rastreo.Library.Results
import Rastreo.Library.Utf8
import Rastreo.Model.Error
import Rastreo.Model.Slices

/-!
# Secrets in configuration texts

`interpolate_env` replaces references to environment variables byte by byte.  The documentation
reads the text by tokens (`tokens`), in which a name is an identifier.  The code does not look at
the name of an escaped reference, which ends at the next closing brace, so it does what is
documented exactly where every escape read has an identifier (`interpolates_iff`).

A variable can also be set to a value that is no text (`VarError.notUnicode`).  The code reports it
like one that is not set, so where the escapes are in order it does what is documented exactly in
the environments in which the first reference that gives no text is to a variable that is not set
(`ReadsText`).
-/

namespace Rastreo

open List

/-! ## The code -/

/-- Why `Env::var` gives no text. -/
inductive VarError where
  | notPresent
  /-- the variable is set to bytes that are not Unicode -/
  | notUnicode (value : Bytes)

abbrev Env := String → Except VarError String

inductive SecretSource where
  | scenario
  | sinkConfig

def SecretSource.referenceLabel : SecretSource → String
  | .scenario => "scenario"
  | .sinkConfig => "sink config"

def isValidIdentifier (name : String) : Bool :=
  match name.toList with
  | [] => false
  | c :: chars => (c.isAlpha || c == '_') && chars.all fun c => c.isAlphanum || c == '_'

def findRefEnd (bytes : Bytes) (start : ℕ) : Option ℕ :=
  if bytes[start]? ≠ some '$'.toUInt8 ∨ bytes[start + 1]? ≠ some '{'.toUInt8 then none
  else ((bytes.drop (start + 2)).findIdx? (· == '}'.toUInt8)).map (start + 2 + ·)

/-- The first test of the loop. -/
def escapeEnd (bytes : Bytes) (i : ℕ) : Option ℕ :=
  if i + 2 < bytes.length ∧ bytes[i + 1]? = some '$'.toUInt8 ∧ bytes[i + 2]? = some '{'.toUInt8 then
    findRefEnd bytes (i + 1)
  else none

/-- The second test: where a reference ends. -/
def referenceEnd (bytes : Bytes) (i : ℕ) : Option ℕ :=
  if i + 1 < bytes.length ∧ bytes[i + 1]? = some '{'.toUInt8 then findRefEnd bytes i else none

def unsetVariable (source : SecretSource) (name : String) : ConfigError :=
  .invalidValue ("environment variable " ++ name ++ " referenced in " ++ source.referenceLabel ++
    " is not set")

section Interpolation

variable (source : SecretSource) (env : Env) (input : String)

/-- The loop of `interpolate_env`, with fuel for the rounds. -/
def interpolateLoop : ℕ → ℕ → ℕ → String → Except Panic (Except ConfigError String)
  | 0, _, copyStart, out => do
    let rest ← sliceText input copyStart (utf8 input.toList).length
    return .ok (out ++ rest)
  | fuel + 1, i, copyStart, out =>
    let bytes := utf8 input.toList
    let next := interpolateLoop fuel (i + 1) copyStart out
    if bytes.length ≤ i then do
      let rest ← sliceText input copyStart bytes.length
      return .ok (out ++ rest)
    else if bytes[i]? ≠ some '$'.toUInt8 then next
    else
      match escapeEnd bytes i, referenceEnd bytes i with
      | some stop, _ => do
        let before ← sliceText input copyStart i
        let kept ← sliceText input (i + 1) (stop + 1)
        interpolateLoop fuel (stop + 1) (stop + 1) (out ++ before ++ kept)
      | none, some stop => do
        let name ← sliceText input (i + 2) stop
        if isValidIdentifier name then
          match env name with
          | .error _ => return .error (unsetVariable source name)
          | .ok value =>
            let before ← sliceText input copyStart i
            interpolateLoop fuel (stop + 1) (stop + 1) (out ++ before ++ value)
        else next
      | none, none => next

def interpolateEnv : Except Panic (Except ConfigError String) :=
  interpolateLoop source env input (utf8 input.toList).length 0 0 ""

end Interpolation

/-! ## Tokens -/

inductive Token where
  | literal (c : Char)
  | escaped (name : String)
  | reference (name : String)

def Token.text : Token → List Char
  | .literal c => [c]
  | .escaped name => '$' :: '$' :: '{' :: (name.toList ++ ['}'])
  | .reference name => '$' :: '{' :: (name.toList ++ ['}'])

/-- Between a dollar sign with an opening brace and the next closing brace. -/
def refName : List Char → Option String
  | d :: o :: inner =>
    if d = '$' ∧ o = '{' ∧ '}' ∈ inner then some (String.ofList (inner.takeWhile (· != '}')))
    else none
  | _ => none

/-- `names` says what may be escaped. -/
def nextToken (names : String → Bool) (c : Char) (cs : List Char) : Token :=
  match (if c = '$' then (refName cs).filter names else none),
    (refName (c :: cs)).filter isValidIdentifier with
  | some name, _ => .escaped name
  | none, some name => .reference name
  | none, none => .literal c

/-- The tokens after so many characters, which the last token still takes. -/
def tokensFrom (names : String → Bool) : ℕ → List Char → List Token
  | _, [] => []
  | skip + 1, _ :: cs => tokensFrom names skip cs
  | 0, c :: cs =>
    nextToken names c cs :: tokensFrom names ((nextToken names c cs).text.length - 1) cs

def tokens (names : String → Bool) (cs : List Char) : List Token := tokensFrom names 0 cs

section Expansion

variable (source : SecretSource) (values : String → Option String)

/-- A reference stands for the value of its variable, if there is one. -/
def Token.expand : Token → Except ConfigError String
  | .literal c => .ok (String.singleton c)
  | .escaped name => .ok (String.ofList (Token.reference name).text)
  | .reference name =>
    match values name with
    | some value => .ok value
    | none => .error (unsetVariable source name)

def expandTokens : List Token → Except ConfigError String
  | [] => .ok ""
  | t :: ts => do
    let text ← t.expand source values
    let rest ← expandTokens ts
    return text ++ rest

/-- The values the code reads. -/
def Env.texts (env : Env) (name : String) : Option String := (env name).toOption

/-- The variables that are set, with a text that stands for any value that is none. -/
def Env.set (env : Env) (name : String) : Option String :=
  match env name with
  | .ok value => some value
  | .error .notPresent => none
  | .error (.notUnicode _) => some ""

/-- A reference to a variable whose value is no text. -/
def Token.unreadable (env : Env) : Token → Bool
  | .reference name => (env.set name).isSome && (env.texts name).isNone
  | _ => false

/-- What is documented: an error if a variable referred to is not set, and the text with the values
in it if not; none is that text if a value is no text. -/
def documented (env : Env) (ts : List Token) : Except ConfigError (Option String) :=
  (expandTokens source env.set ts).map fun text =>
    if ts.any (Token.unreadable env) then none else some text

end Expansion

/-! ## Reading bytes -/

variable {before rest cs : List Char} {c : Char} {name : String} {names : String → Bool}

lemma utf8Len_eq (cs : List Char) : utf8Len cs = (utf8 cs).length := (length_utf8 cs).symm

lemma utf8Len_cons (c : Char) (cs : List Char) : utf8Len (c :: cs) = c.utf8Size + utf8Len cs := rfl

lemma getElem?_utf8 (before rest : List Char) (k : ℕ) :
    (utf8 (before ++ rest))[utf8Len before + k]? = (utf8 rest)[k]? := by
  rw [utf8_append, utf8Len_eq, getElem?_append_right (Nat.le_add_right _ _),
    Nat.add_sub_cancel_left]

lemma refName_eq_some : refName cs = some name ↔
      ∃ after, cs = (Token.reference name).text ++ after ∧ '}' ∉ name.toList := by
  constructor
  · intro h
    unfold refName at h
    split at h
    · split_ifs at h with hc
      obtain ⟨rfl, rfl, hmem⟩ := hc
      obtain ⟨before, after, rfl, hfree⟩ := eq_append_cons_of_mem hmem
      obtain rfl := Option.some.inj h
      rw [takeWhile_ne_append hfree, Token.text, String.toList_ofList]
      exact ⟨after, by simp, hfree⟩
    · cases h
  · rintro ⟨after, rfl, hfree⟩
    have hcs : (Token.reference name).text ++ after =
        '$' :: '{' :: (name.toList ++ '}' :: after) := by
      simp [Token.text]
    rw [hcs, refName, if_pos ⟨rfl, rfl, by simp⟩, takeWhile_ne_append hfree, String.ofList_toList]

lemma findRefEnd_eq (before rest : List Char) :
    findRefEnd (utf8 (before ++ rest)) (utf8Len before) =
      (refName rest).map fun name => utf8Len before + 2 + utf8Len name.toList := by
  have hhead : ∀ {d : Char} {cs}, d.utf8Size = 1 → (utf8 cs)[0]? = some d.toUInt8 →
      ∃ tail, cs = d :: tail := fun hd h => by
    rw [← head?_eq_getElem?] at h
    exact ⟨_, eq_cons_of_mem_head? ((head?_utf8_eq hd _).mp h)⟩
  rw [findRefEnd]
  split_ifs with hnot
  · cases hname : refName rest with
    | none => rfl
    | some name =>
      obtain ⟨after, rfl, -⟩ := refName_eq_some.mp hname
      rcases hnot with hnot | hnot
      · exact absurd (getElem?_utf8 before _ 0) hnot
      · exact absurd (getElem?_utf8 before _ 1) hnot
  · obtain ⟨h₀, h₁⟩ := not_or.mp hnot
    obtain ⟨tail, rfl⟩ := hhead rfl ((getElem?_utf8 before rest 0).symm.trans (not_not.mp h₀))
    obtain ⟨inner, rfl⟩ :=
      hhead (d := '{') rfl ((getElem?_utf8 before _ 1).symm.trans (not_not.mp h₁))
    have hdrop : (utf8 (before ++ '$' :: '{' :: inner)).drop (utf8Len before + 2) = utf8 inner := by
      rw [utf8_append, utf8Len_eq, drop_length_add_append]
      rfl
    rw [hdrop, refName]
    by_cases hmem : '}' ∈ inner
    · obtain ⟨inside, after, rfl, hfree⟩ := eq_append_cons_of_mem hmem
      rw [(findIdx?_utf8 rfl hfree after).1, if_pos ⟨rfl, rfl, hmem⟩, takeWhile_ne_append hfree]
      simp [utf8Len_eq]
    · rw [(findIdx?_utf8 rfl hmem []).2, if_neg fun h => hmem h.2.2]
      rfl

lemma ite_findRefEnd {bytes : Bytes} {start : ℕ} {p : Prop} [Decidable p]
    (hp : bytes[start]? = some '$'.toUInt8 → bytes[start + 1]? = some '{'.toUInt8 → p) :
    (if p then findRefEnd bytes start else none) = findRefEnd bytes start := by
  split_ifs with h
  · rfl
  · refine (if_pos (not_and_or.mp fun hboth => h (hp hboth.1 hboth.2))).symm

lemma escapeEnd_eq (before rest : List Char) :
    escapeEnd (utf8 (before ++ '$' :: rest)) (utf8Len before) =
      (refName rest).map fun name => utf8Len before + 3 + utf8Len name.toList := by
  have hends := findRefEnd_eq (before ++ ['$']) rest
  have hlen : utf8Len (before ++ ['$']) = utf8Len before + 1 := utf8Len_append before ['$']
  rw [hlen, append_assoc] at hends
  exact (ite_findRefEnd fun h₀ h₁ => ⟨(List.getElem?_eq_some_iff.mp h₁).1, h₀, h₁⟩).trans hends

lemma referenceEnd_eq (before rest : List Char) :
    referenceEnd (utf8 (before ++ rest)) (utf8Len before) =
      (refName rest).map fun name => utf8Len before + 2 + utf8Len name.toList :=
  (ite_findRefEnd fun _ h₁ => ⟨(List.getElem?_eq_some_iff.mp h₁).1, h₁⟩).trans
    (findRefEnd_eq before rest)

/-! ## One token after another -/

lemma text_pos (t : Token) : 1 ≤ t.text.length ∧ 1 ≤ utf8Len t.text := by
  cases t with
  | literal c => exact ⟨le_rfl, Nat.le_add_right_of_le (Nat.succ_le_of_lt c.utf8Size_pos)⟩
  | escaped name => exact ⟨Nat.le_add_left _ _, Nat.le_add_right 1 _⟩
  | reference name => exact ⟨Nat.le_add_left _ _, Nat.le_add_right 1 _⟩

lemma tokensFrom_eq (skip : ℕ) (cs : List Char) :
    tokensFrom names skip cs = tokens names (cs.drop skip) := by
  induction cs generalizing skip with
  | nil => cases skip <;> rfl
  | cons c cs ih =>
    cases skip with
    | zero => rfl
    | succ skip => exact ih skip

lemma nextToken_other (hc : c ≠ '$') : nextToken names c cs = .literal c := by
  have hnone : refName (c :: cs) = none := by
    cases hname : refName (c :: cs) with
    | none => rfl
    | some name =>
      obtain ⟨after, hcs, -⟩ := refName_eq_some.mp hname
      exact absurd (head_eq_of_cons_eq hcs) hc
  rw [nextToken, if_neg hc, hnone]
  rfl

lemma exists_tokens_cons (names : String → Bool) (c : Char) (cs : List Char) :
    ∃ after, c :: cs = (nextToken names c cs).text ++ after ∧ after.length < (c :: cs).length ∧
      tokens names (c :: cs) = nextToken names c cs :: tokens names after := by
  obtain ⟨after, hsplit⟩ : ∃ after, c :: cs = (nextToken names c cs).text ++ after := by
    unfold nextToken
    split
    · next name hname =>
      split_ifs at hname with hc
      obtain ⟨after, hcs, -⟩ := refName_eq_some.mp (Option.filter_eq_some_iff.mp hname).1
      exact ⟨after, by rw [hc, hcs]; rfl⟩
    · next name _ hname =>
      obtain ⟨after, hcs, -⟩ := refName_eq_some.mp (Option.filter_eq_some_iff.mp hname).1
      exact ⟨after, hcs⟩
    · exact ⟨cs, rfl⟩
  have hpos := (text_pos (nextToken names c cs)).1
  obtain ⟨k, hk⟩ := Nat.exists_eq_add_one.mpr hpos
  have hdrop := congrArg (List.drop (k + 1)) hsplit
  rw [drop_succ_cons, ← hk, drop_left] at hdrop
  refine ⟨after, hsplit, by rw [hsplit, length_append]; omega, ?_⟩
  rw [← hdrop, ← tokensFrom_eq, tokens, tokensFrom, hk]
  rfl

lemma tokens_literal (h : nextToken names c cs = .literal c) :
    tokens names (c :: cs) = .literal c :: tokens names cs := by
  obtain ⟨after, hsplit, -, htokens⟩ := exists_tokens_cons names c cs
  rw [h] at hsplit htokens
  obtain rfl : cs = after := tail_eq_of_cons_eq hsplit
  exact htokens

lemma refName_of_nextToken (h : nextToken (fun _ => true) c cs = .escaped name) :
    c = '$' ∧ refName cs = some name := by
  by_cases hc : c = '$'
  · subst hc
    refine ⟨rfl, ?_⟩
    rw [nextToken, if_pos rfl] at h
    cases hname : refName cs with
    | some other =>
      rw [hname] at h
      grind
    | none =>
      rw [hname] at h
      grind
  · rw [nextToken_other hc] at h
    cases h

lemma nextToken_eq
    (h : ∀ name, nextToken (fun _ => true) c cs = .escaped name → isValidIdentifier name = true) :
    nextToken isValidIdentifier c cs = nextToken (fun _ => true) c cs := by
  by_cases hc : c = '$'
  · subst hc
    cases hname : refName cs with
    | none => rw [nextToken, nextToken, hname]; rfl
    | some name =>
      have hval := h name (by rw [nextToken, hname]; rfl)
      simp [nextToken, hname, Option.filter, hval]
  · rw [nextToken_other hc, nextToken_other hc]

lemma flatMap_text_tokens (names : String → Bool) (cs : List Char) :
    (tokens names cs).flatMap Token.text = cs := by
  induction hn : cs.length using Nat.strong_induction_on generalizing cs with
  | _ n ih =>
  cases cs with
  | nil => rfl
  | cons c cs =>
    obtain ⟨after, hsplit, hsho, htokens⟩ := exists_tokens_cons names c cs
    grind

/-! ## The loop -/

variable {source : SecretSource} {env : Env} {values : String → Option String} {input : String}

lemma interpolateLoop_skip {pre mid post : Bytes} (hbytes : utf8 input.toList = pre ++ mid ++ post)
    (hmid : ∀ b ∈ mid, b ≠ '$'.toUInt8) (fuel copyStart : ℕ) (out : String) :
    interpolateLoop source env input (fuel + mid.length) pre.length copyStart out =
      interpolateLoop source env input fuel (pre.length + mid.length) copyStart out := by
  induction mid generalizing pre with
  | nil => rfl
  | cons b mid ih =>
    have hat : (utf8 input.toList)[pre.length]? = some b := by simp [hbytes]
    have hne : (utf8 input.toList)[pre.length]? ≠ some '$'.toUInt8 := fun h =>
      hmid b mem_cons_self (Option.mem_unique hat h)
    have hnext := @ih (pre ++ [b]) (by rw [hbytes]; simp) fun b hb => hmid b (mem_cons_of_mem _ hb)
    rw [length_append, length_singleton] at hnext
    rw [length_cons, ← Nat.add_assoc, interpolateLoop, if_neg (by simp [hbytes]), if_pos hne,
      hnext, Nat.add_assoc, Nat.add_comm 1]

lemma sliceText_span {copied pending : List Char} (h : input.toList = copied ++ pending ++ rest) :
    sliceText input (utf8Len copied) (utf8Len (copied ++ pending)) =
      .ok (String.ofList pending) := by
  rw [utf8Len_append]
  exact sliceText_of_span h

lemma utf8Len_reference (name : String) :
    utf8Len (Token.reference name).text = 2 + utf8Len name.toList + 1 := by
  change 1 + (1 + utf8Len (name.toList ++ ['}'])) = _
  rw [utf8Len_append, ← Nat.add_assoc, ← Nat.add_assoc]
  rfl

section Rounds

variable {copied pending : List Char} {out : String} {fuel : ℕ}

/-- At a dollar sign a token is read; all but a literal one are written at once. -/
lemma interpolateLoop_dollar (h : input.toList = copied ++ pending ++ '$' :: cs) :
    interpolateLoop source env input (fuel + 1) (utf8Len (copied ++ pending)) (utf8Len copied) out =
      match nextToken (fun _ => true) '$' cs with
      | .literal _ =>
        interpolateLoop source env input fuel (utf8Len (copied ++ pending) + 1) (utf8Len copied) out
      | t =>
        match t.expand source env.texts with
        | .error e => .ok (.error e)
        | .ok text =>
          let stop := utf8Len (copied ++ pending) + utf8Len t.text
          interpolateLoop source env input fuel stop stop
            (out ++ String.ofList pending ++ text) := by
  have hat : (utf8 input.toList)[utf8Len (copied ++ pending)]? = some '$'.toUInt8 := by
    rw [h]
    exact getElem?_utf8 _ _ 0
  have hin := not_le.mpr (List.getElem?_eq_some_iff.mp hat).1
  have hesc := escapeEnd_eq (copied ++ pending) cs
  have href := referenceEnd_eq (copied ++ pending) ('$' :: cs)
  rw [← h] at hesc href
  rw [interpolateLoop, if_neg hin, if_neg (not_not.mpr hat), hesc, href, nextToken, if_pos rfl]
  cases hesd : refName cs with
  | some name =>
    obtain ⟨after, rfl, -⟩ := refName_eq_some.mp hesd
    have hkept := @sliceText_span after input (copied ++ pending ++ ['$'])
      (Token.reference name).text (by rw [h]; simp)
    have hstop : utf8Len (copied ++ pending) + utf8Len (Token.escaped name).text =
        utf8Len (copied ++ pending) + 3 + utf8Len name.toList + 1 := by
      change _ + (1 + utf8Len (Token.reference name).text) = _
      rw [utf8Len_reference]
      omega
    rw [append_assoc (copied ++ pending), utf8Len_append (copied ++ pending),
      utf8Len_append (copied ++ pending)] at hkept
    change sliceText input (_ + 1) (_ + utf8Len (Token.escaped name).text) = _ at hkept
    rw [hstop] at hkept
    simp only [Option.map_some, Option.filter, if_true, sliceText_span h, ok_bind, hkept,
      Token.expand, hstop]
  | none =>
    cases hname : refName ('$' :: cs) with
    | none => rfl
    | some name =>
      obtain ⟨after, hcs, -⟩ := refName_eq_some.mp hname
      have hslice := @sliceText_span ('}' :: after) input (copied ++ pending ++ ['$', '{'])
        name.toList (by rw [h, hcs]; simp [Token.text])
      have hstop : utf8Len (copied ++ pending) + utf8Len (Token.reference name).text =
          utf8Len (copied ++ pending) + 2 + utf8Len name.toList + 1 := by
        rw [utf8Len_reference]
        omega
      rw [utf8Len_append _ name.toList, utf8Len_append (copied ++ pending),
        String.ofList_toList] at hslice
      change sliceText input (_ + 2) (_ + 2 + _) = _ at hslice
      cases hval : isValidIdentifier name with
      | false => simp [hslice, hval, Option.filter]
      | true =>
        cases hvalue : env name with
        | error =>
          simp [hslice, hval, hvalue, Option.filter, Token.expand, Env.texts, Except.toOption]
          rfl
        | ok value =>
          simp [hslice, hval, hvalue, Option.filter, Token.expand, Env.texts, Except.toOption,
            sliceText_span h, hstop]

lemma map_expandTokens_cons {t : Token} {text : String} (ht : t.expand source values = .ok text)
    (ts : List Token) (out : String) :
    (expandTokens source values (t :: ts)).map (out ++ ·) =
      (expandTokens source values ts).map (out ++ text ++ ·) := by
  rw [expandTokens, ht, ok_bind]
  cases expandTokens source values ts with
  | error e => rfl
  | ok rest => exact congrArg Except.ok String.append_assoc.symm

/-- From the beginning of a character, with what is read and not yet copied. -/
lemma interpolateLoop_eq (h : input.toList = copied ++ pending ++ rest)
    (hfuel : utf8Len rest ≤ fuel) :
    interpolateLoop source env input fuel (utf8Len (copied ++ pending)) (utf8Len copied) out =
      .ok ((expandTokens source env.texts (tokens (fun _ => true) rest)).map
        (out ++ String.ofList pending ++ ·)) := by
  induction hn : rest.length using Nat.strong_induction_on
    generalizing copied pending rest fuel out with
  | _ n ih =>
  cases rest with
  | nil =>
    have hslice := sliceText_span h
    have hlen : utf8Len (copied ++ pending) = (utf8 input.toList).length := by
      rw [← utf8Len_eq, h, append_nil]
    have hend : expandTokens source env.texts (tokens (fun _ => true) []) = .ok "" := rfl
    rw [hlen] at hslice ⊢
    rw [hend, Except.map, String.append_empty]
    cases fuel with
    | zero => rw [interpolateLoop, hslice]; rfl
    | succ fuel => rw [interpolateLoop, if_pos le_rfl, hslice]; rfl
  | cons c cs =>
    obtain ⟨after, hsplit, hsho, htokens⟩ := exists_tokens_cons (fun _ => true) c cs
    have hpos := text_pos (nextToken (fun _ => true) c cs)
    have hread := congrArg utf8Len hsplit
    rw [utf8Len_append] at hread
    -- A character that is copied as it is stays behind the last copy.
    have hlit : ∀ {fuel}, nextToken (fun _ => true) c cs = .literal c → utf8Len cs ≤ fuel →
        interpolateLoop source env input fuel (utf8Len (copied ++ pending) + c.utf8Size)
          (utf8Len copied) out =
          .ok ((expandTokens source env.texts (tokens (fun _ => true) (c :: cs))).map
            (out ++ String.ofList pending ++ ·)) := by
      intro fuel hnext hfuel
      rw [hnext] at hsplit htokens
      obtain rfl : cs = after := tail_eq_of_cons_eq hsplit
      have hlen : utf8Len (copied ++ (pending ++ [c])) =
          utf8Len (copied ++ pending) + c.utf8Size := by
        rw [← append_assoc, utf8Len_append]
        rfl
      rw [← hlen, ih cs.length (hn ▸ hsho) (by rw [h]; simp) hfuel rfl, htokens,
        map_expandTokens_cons (t := .literal c) rfl, String.ofList_append, ← String.append_assoc]
      rfl
    by_cases hc : c = '$'
    · subst hc
      obtain ⟨fuel, rfl⟩ : ∃ k, fuel = k + 1 := Nat.exists_eq_add_one.mpr (by omega)
      rw [interpolateLoop_dollar h]
      split
      · next d hnext =>
        obtain rfl : '$' = d := by
          rw [hnext] at hsplit
          exact head_eq_of_cons_eq hsplit
        rw [utf8Len_cons, show '$'.utf8Size = 1 from rfl] at hfuel
        exact hlit hnext (by omega)
      · next hne =>
        cases htext : (nextToken (fun _ => true) '$' cs).expand source env.texts with
        | error e =>
          rw [htokens, expandTokens, htext]
          rfl
        | ok text =>
          have hrest := @ih after.length (hn ▸ hsho) after
            (copied ++ pending ++ (nextToken (fun _ => true) '$' cs).text) []
            (out ++ String.ofList pending ++ text) fuel (by rw [h, hsplit]; simp) (by omega) rfl
          rw [append_nil, utf8Len_append] at hrest
          rw [htokens, map_expandTokens_cons htext]
          exact hrest.trans (by simp)
    · have hmid : ∀ b ∈ String.utf8EncodeChar c, b ≠ '$'.toUInt8 := by
        rintro b hb rfl
        exact hc (eq_of_mem_utf8EncodeChar rfl hb)
      rw [utf8Len_cons] at hfuel
      obtain ⟨fuel, rfl⟩ : ∃ k, fuel = k + c.utf8Size := ⟨fuel - c.utf8Size, by omega⟩
      have hskip := @interpolateLoop_skip source env input (utf8 (copied ++ pending)) _ (utf8 cs)
        (by rw [h]; simp) hmid fuel (utf8Len copied) out
      rw [String.length_utf8EncodeChar, ← utf8Len_eq] at hskip
      exact hskip.trans (hlit (nextToken_other hc) (by omega))

end Rounds

/-! ## What is documented -/

/-- Every escape read, up to a closing brace, has an identifier. -/
def EscapesNames (cs : List Char) : Prop :=
  ∀ name, .escaped name ∈ tokens (fun _ => true) cs → isValidIdentifier name = true

lemma interpolateEnv_eq (source : SecretSource) (env : Env) (input : String) :
    interpolateEnv source env input =
      .ok (expandTokens source env.texts (tokens (fun _ => true) input.toList)) := by
  have hloop := @interpolateLoop_eq input.toList source env input [] [] "" _ rfl (utf8Len_eq _).le
  refine hloop.trans (congrArg Except.ok ?_)
  cases expandTokens source env.texts (tokens (fun _ => true) input.toList) with
  | error e => rfl
  | ok text => exact congrArg Except.ok (by simp)

/-- Expansion fails with the message of a variable without a value. -/
lemma unset_of_expandTokens {ts : List Token} {e : ConfigError}
    (herror : expandTokens source values ts = .error e) :
    ∃ name, .reference name ∈ ts ∧ values name = none ∧ e = unsetVariable source name := by
  induction ts with
  | nil => cases herror
  | cons t ts ih =>
    rw [expandTokens] at herror
    cases htext : t.expand source values with
    | error e' =>
      rw [htext] at herror
      obtain rfl := Except.error.inj herror
      cases t with
      | literal c => cases htext
      | escaped name => cases htext
      | reference name =>
        rw [Token.expand] at htext
        split at htext
        · cases htext
        · next hnone => exact ⟨name, mem_cons_self, hnone, (Except.error.inj htext).symm⟩
    | ok text =>
      rw [htext, ok_bind] at herror
      cases hrest : expandTokens source values ts with
      | error e' =>
        rw [hrest] at herror
        obtain rfl := Except.error.inj herror
        grind
      | ok rest =>
        rw [hrest] at herror
        cases herror

lemma expandTokens_error_iff (ts : List Token) : (∃ e, expandTokens source values ts = .error e) ↔
      ∃ name, .reference name ∈ ts ∧ values name = none := by
  constructor
  · rintro ⟨e, herror⟩
    obtain ⟨name, hname, hnone, -⟩ := unset_of_expandTokens herror
    exact ⟨name, hname, hnone⟩
  · rintro ⟨name, hname, hnone⟩
    induction ts with
    | nil => cases hname
    | cons t ts ih =>
      rw [expandTokens]
      rcases mem_cons.mp hname with rfl | hname
      · exact ⟨_, by rw [Token.expand, hnone]; rfl⟩
      · obtain ⟨e, herror⟩ := ih hname
        cases t.expand source values <;> simp [herror]

section AllSet

variable (hset : ∀ name, values name ≠ none)
include hset

lemma exists_expandTokens (ts : List Token) : ∃ text, expandTokens source values ts = .ok text := by
  cases htext : expandTokens source values ts with
  | ok text => exact ⟨text, rfl⟩
  | error e =>
    obtain ⟨name, -, hname⟩ := (expandTokens_error_iff ts).mp ⟨e, htext⟩
    grind

lemma expandTokens_cons_inj {t : Token} {ts ts' : List Token}
    (h : expandTokens source values (t :: ts) = expandTokens source values (t :: ts')) :
    expandTokens source values ts = expandTokens source values ts' := by
  obtain ⟨text, htext⟩ := exists_expandTokens hset ts
  obtain ⟨text', htext'⟩ := exists_expandTokens hset ts'
  obtain ⟨whole, hwhole⟩ := exists_expandTokens hset (t :: ts)
  obtain ⟨first, hfst, -⟩ := bind_eq_ok.mp hwhole
  rw [expandTokens, expandTokens, hfst, htext, htext'] at h
  simp_all

/-- Without an identifier the code drops a dollar sign that the documents keep. -/
lemma expandTokens_malformed (hescaped : refName cs = some name)
    (hname : isValidIdentifier name = false) (ts : List Token) :
    expandTokens source values (tokens isValidIdentifier ('$' :: cs)) ≠
      expandTokens source values (.escaped name :: ts) := by
  have hnone : (some name).filter isValidIdentifier = none := by simp [Option.filter, hname]
  obtain ⟨inner, rfl⟩ : ∃ inner, cs = '$' :: '{' :: inner := by
    obtain ⟨after, hcs, -⟩ := refName_eq_some.mp hescaped
    exact ⟨_, hcs⟩
  -- Neither dollar sign begins more than a literal token of the documentation.
  have hfst : nextToken isValidIdentifier '$' ('$' :: '{' :: inner) = .literal '$' := by
    rw [nextToken, if_pos rfl, hescaped, hnone]
    rfl
  have hbrace : refName ('{' :: inner) = none := by cases inner <;> rfl
  have hsnd : nextToken isValidIdentifier '$' ('{' :: inner) = .literal '$' := by
    rw [nextToken, if_pos rfl, hbrace, hescaped, hnone]
    rfl
  rw [tokens_literal hfst, tokens_literal hsnd]
  obtain ⟨text, htext⟩ := exists_expandTokens hset (tokens isValidIdentifier ('{' :: inner))
  obtain ⟨text', htext'⟩ := exists_expandTokens hset ts
  rw [expandTokens, expandTokens, expandTokens, htext, htext']
  intro h
  have hsame := congrArg String.toList (Except.ok.inj h)
  simp [Token.text] at hsame

lemma tokens_compare (cs : List Char) :
    EscapesNames cs ∧ tokens isValidIdentifier cs = tokens (fun _ => true) cs ∨
      ¬ EscapesNames cs ∧ expandTokens source values (tokens isValidIdentifier cs) ≠
        expandTokens source values (tokens (fun _ => true) cs) := by
  induction hn : cs.length using Nat.strong_induction_on generalizing cs with
  | _ n ih =>
  cases cs with
  | nil => exact .inl ⟨fun name h => absurd h not_mem_nil, rfl⟩
  | cons c cs =>
    obtain ⟨after, hsplit, hsho, hany⟩ := exists_tokens_cons (fun _ => true) c cs
    rw [EscapesNames, hany]
    by_cases hbad : ∃ name, nextToken (fun _ => true) c cs = .escaped name ∧
        isValidIdentifier name = false
    · obtain ⟨name, hnext, hname⟩ := hbad
      obtain ⟨rfl, hesc⟩ := refName_of_nextToken hnext
      rw [hnext]
      refine .inr ⟨fun h => ?_, expandTokens_malformed hset hesc hname _⟩
      grind
    · have hgood : ∀ name, nextToken (fun _ => true) c cs = .escaped name →
          isValidIdentifier name = true := fun name hnext =>
        Bool.of_not_eq_false fun hname => hbad ⟨name, hnext, hname⟩
      have hsame := nextToken_eq hgood
      obtain ⟨after', hspl', -, hval⟩ := exists_tokens_cons isValidIdentifier c cs
      obtain rfl := append_cancel_left (hsame ▸ hspl'.symm.trans hsplit)
      have hnames : EscapesNames after' ↔ ∀ name, .escaped name ∈ nextToken (fun _ => true) c cs ::
          tokens (fun _ => true) after' → isValidIdentifier name = true := by
        refine ⟨fun h name hmem => ?_, fun h name hmem => h name (mem_cons_of_mem _ hmem)⟩
        rcases mem_cons.mp hmem with hmem | hmem
        · exact hgood name hmem.symm
        · exact h name hmem
      rw [hval, hsame, ← hnames]
      refine (ih after'.length (hn ▸ hsho) after' rfl).imp (And.imp_right (congrArg _)) ?_
      exact And.imp_right fun hne h => hne (expandTokens_cons_inj hset h)

end AllSet

/-! ## Values that are no text -/

/-- The first reference that gives no text, if there is one, is to a variable that is not set. -/
def ReadsText (env : Env) : List Token → Prop
  | [] => True
  | .reference name :: ts =>
    match env name with
    | .ok _ => ReadsText env ts
    | .error .notPresent => True
    | .error (.notUnicode _) => False
  | _ :: ts => ReadsText env ts

/-- An environment in which every variable has a text can be read. -/
lemma readsText_of_ok (hset : ∀ name, ∃ value, env name = .ok value) (ts : List Token) :
    ReadsText env ts := by
  induction ts with
  | nil => trivial
  | cons t ts ih =>
    cases t with
    | literal c => exact ih
    | escaped name => exact ih
    | reference name =>
      obtain ⟨value, hvalue⟩ := hset name
      rw [ReadsText, hvalue]
      exact ih

/-- The message of an unset variable names it. -/
lemma unsetVariable_injective (source : SecretSource) : (unsetVariable source).Injective := by
  intro name name' h
  simpa [unsetVariable, String.append_left_inj, String.append_right_inj] using h

/-- A token that both readings expand to one text decides nothing. -/
lemma documented_cons {t : Token} {text : String} {ts : List Token}
    (htexts : t.expand source env.texts = .ok text) (hset : t.expand source env.set = .ok text)
    (hread : t.unreadable env = false) :
    (expandTokens source env.texts (t :: ts)).map some = documented source env (t :: ts) ↔
      (expandTokens source env.texts ts).map some = documented source env ts := by
  unfold documented
  rw [expandTokens, expandTokens, htexts, hset, any_cons, hread, Bool.false_or, ok_bind, ok_bind]
  cases expandTokens source env.texts ts with
  | error e =>
    cases expandTokens source env.set ts with
    | error e' => rfl
    | ok rest => exact iff_of_false nofun nofun
  | ok rest =>
    cases expandTokens source env.set ts with
    | error e => exact iff_of_false nofun nofun
    | ok rest' =>
      cases ts.any (Token.unreadable env) with
      | true => exact iff_of_false nofun nofun
      | false => simp [Except.map, String.append_right_inj]

/-- The code does what is documented exactly where it can read the values. -/
lemma documented_iff (source : SecretSource) (env : Env) (ts : List Token) :
    (expandTokens source env.texts ts).map some = documented source env ts ↔ ReadsText env ts := by
  induction ts with
  | nil => exact iff_of_true rfl trivial
  | cons t ts ih =>
    cases t with
    | literal c => exact (documented_cons rfl rfl rfl).trans ih
    | escaped name => exact (documented_cons rfl rfl rfl).trans ih
    | reference name =>
      rw [ReadsText]
      match hvalue : env name with
      | .ok value =>
        have htexts : env.texts name = some value := by rw [Env.texts, hvalue]; rfl
        have hset : env.set name = some value := by rw [Env.set, hvalue]
        exact (documented_cons (by rw [Token.expand, htexts]) (by rw [Token.expand, hset])
          (by simp [Token.unreadable, htexts])).trans ih
      | .error .notPresent =>
        have htexts : env.texts name = none := by rw [Env.texts, hvalue]; rfl
        have hset : env.set name = none := by rw [Env.set, hvalue]
        refine iff_of_true ?_ trivial
        rw [documented, expandTokens, expandTokens, Token.expand, Token.expand, htexts, hset]
        rfl
      | .error (.notUnicode bytes) =>
        -- The code names this variable, an error that is documented one that is not set.
        have htexts : env.texts name = none := by rw [Env.texts, hvalue]; rfl
        have hset : env.set name = some "" := by rw [Env.set, hvalue]
        refine iff_of_false (fun hsame => ?_) id
        rw [expandTokens, Token.expand, htexts] at hsame
        obtain ⟨other, hother, hname⟩ : ∃ other, env.set other = none ∧
            unsetVariable source name = unsetVariable source other := by
          unfold documented at hsame
          cases hlaw : expandTokens source env.set (.reference name :: ts) with
          | error e =>
            rw [hlaw] at hsame
            obtain rfl := Except.error.inj hsame
            obtain ⟨other, -, hother⟩ := unset_of_expandTokens hlaw
            exact ⟨other, hother⟩
          | ok text =>
            rw [hlaw] at hsame
            cases hsame
        rw [← unsetVariable_injective source hname, hset] at hother
        cases hother

/-- In every environment whose values it can read the code replaces escapes and references as
documented, if and only if each escape it reads has an identifier; and then it does so in no other
environment.  It never slices inside a character, the tokens make up the text, and what is
documented is an error exactly if one refers to a variable that is not set. -/
theorem interpolates_iff (source : SecretSource) (input : String) :
    let law := fun env => documented source env (tokens isValidIdentifier input.toList)
    let code := fun env => (interpolateEnv source env input).map (Except.map some)
    ((∀ env, ReadsText env (tokens isValidIdentifier input.toList) → code env = .ok (law env)) ↔
      EscapesNames input.toList) ∧
    (EscapesNames input.toList → ∀ env, code env = .ok (law env) ↔
      ReadsText env (tokens isValidIdentifier input.toList)) ∧
    (∀ env, ∃ result, interpolateEnv source env input = .ok result) ∧
    (tokens isValidIdentifier input.toList).flatMap Token.text = input.toList ∧
    ∀ env, (∃ e, law env = .error e) ↔ ∃ name,
      .reference name ∈ tokens isValidIdentifier input.toList ∧ env name = .error .notPresent := by
  have hcode : ∀ env, (interpolateEnv source env input).map (Except.map some) =
      .ok ((expandTokens source env.texts (tokens (fun _ => true) input.toList)).map some) :=
    fun env => by rw [interpolateEnv_eq]; rfl
  refine ⟨?_, fun hnames env => ?_, fun env => ⟨_, interpolateEnv_eq source env input⟩,
    flatMap_text_tokens _ _, fun env => ?_⟩
  · simp only [hcode, Except.ok.injEq]
    -- The environment in which every variable is empty tells the two readings apart.
    rcases @tokens_compare source (Env.texts fun _ => .ok "") nofun input.toList with
      ⟨hnames, heq⟩ | ⟨hnot, hne⟩
    · refine iff_of_true (fun env hreads => ?_) hnames
      rw [← heq]
      exact (documented_iff source env _).mpr hreads
    · refine iff_of_false (fun hall => hne ?_) hnot
      have hreads := readsText_of_ok (fun _ => ⟨"", rfl⟩) (tokens isValidIdentifier input.toList)
      have hsame := ((documented_iff source _ _).mpr hreads).trans (hall _ hreads).symm
      exact map_injective (Option.some_injective _) hsame
  · have heq : tokens isValidIdentifier input.toList = tokens (fun _ => true) input.toList :=
      (@tokens_compare source (fun _ => some "") nofun input.toList).elim And.right
        fun hnot => absurd hnames hnot.1
    simp only [hcode, Except.ok.injEq, heq]
    exact documented_iff source env _
  · have hnone : ∀ name, env.set name = none ↔ env name = .error .notPresent := fun name => by
      match hvalue : env name with
      | .ok value | .error .notPresent | .error (.notUnicode bytes) => simp [Env.set, hvalue]
    simp only [← hnone]
    refine Iff.trans ?_ (@expandTokens_error_iff source env.set _)
    unfold documented
    cases expandTokens source env.set (tokens isValidIdentifier input.toList) with
    | error e => simp [Except.map]
    | ok text => simp [Except.map]

/-- A dollar sign is lost and a reference is not replaced. -/
theorem escape_swallows_reference :
    let env : Env := fun name => if name = "B" then .ok "b" else .error .notPresent
    interpolateEnv .scenario env "$$\x7ba $\x7bB\x7d" = .ok (.ok "$\x7ba $\x7bB\x7d") ∧
      documented .scenario env (tokens isValidIdentifier "$$\x7ba $\x7bB\x7d".toList) =
        .ok (some "$$\x7ba b") := by
  decide +kernel

end Rastreo
