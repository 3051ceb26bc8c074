import Rastreo.Library.Results
import Rastreo.Model.Slices
import Mathlib.Data.Nat.Digits.Lemmas

/-!
# Rendered timestamps

A UTC date-time is rendered into a buffer of 33 bytes; a chunk that does not fit is dropped.  None
is (`render_eq`), and two date-times have one text only if one is a leap second inside a minute,
which is written as the second after it.
-/

namespace Rastreo

open List

/-! ## The code -/

/-- Nanoseconds from a whole second on are a leap second. -/
@[ext] structure DateTime where
  year : ℤ
  month : ℕ
  day : ℕ
  hour : ℕ
  minute : ℕ
  second : ℕ
  nanosecond : ℕ
  year_mem : -262143 ≤ year ∧ year ≤ 262142
  fields_lt : month < 13 ∧ day < 32 ∧ hour < 24 ∧ minute < 60 ∧ second < 60 ∧
    nanosecond < 2000000000
  deriving DecidableEq

def renderCapacity : ℕ := 33

/-- `b'0' + n as u8`. -/
def digit (n : ℕ) : UInt8 := 48 + UInt8.ofNat n

def twoDigits (value : ℕ) : Bytes := [digit (value / 10), digit (value % 10)]

/-- A buffer and how much of it is used. -/
structure Rfc3339Utc where
  bytes : Bytes
  len : ℕ

namespace Rfc3339Utc

def push (self : Rfc3339Utc) (chunk : Bytes) : Rfc3339Utc :=
  let stop := self.len + chunk.length
  if stop ≤ self.bytes.length then
    ⟨self.bytes.take self.len ++ chunk ++ self.bytes.drop stop, stop⟩
  else self

/-- The digits and where they start. -/
def signedYearLoop (digits : Bytes) (first magnitude : ℕ) : Except Panic (Bytes × ℕ) :=
  if _h : magnitude = 0 then .ok (digits, first)
  else if first = 0 ∨ digits.length < first then .error .indexOutOfBounds
  else signedYearLoop (digits.set (first - 1) (digit (magnitude % 10))) (first - 1) (magnitude / 10)
termination_by magnitude

def yearSign (year : ℤ) : UInt8 := if year < 0 then 45 else 43

def pushSignedYear (self : Rfc3339Utc) (year : ℤ) : Except Panic Rfc3339Utc := do
  let (digits, first) ← signedYearLoop (List.replicate 6 48) 6 year.natAbs
  let self := self.push [yearSign year]
  let chunk ← sliceBytes digits (min first 2) digits.length
  pure (self.push chunk)

def pushYear (self : Rfc3339Utc) (year : ℤ) : Except Panic Rfc3339Utc :=
  if 0 ≤ year ∧ year ≤ 9999 then
    .ok (self.push (twoDigits (year.natAbs / 100) ++ twoDigits (year.natAbs % 100)))
  else self.pushSignedYear year

/-- So many digits, from the last slot to the first. -/
def writeDigits : ℕ → ℕ → Bytes
  | 0, _ => []
  | k + 1, n => writeDigits k (n / 10) ++ [digit (n % 10)]

def subsecondWidth (nanosecond : ℕ) : ℕ :=
  if nanosecond % 1000000 = 0 then 3 else if nanosecond % 1000 = 0 then 6 else 9

def pushSubsecond (self : Rfc3339Utc) (nanosecond : ℕ) : Except Panic Rfc3339Utc := do
  if nanosecond = 0 then return self
  let fraction := 46 :: writeDigits 9 nanosecond
  let chunk ← sliceBytes fraction 0 (subsecondWidth nanosecond + 1)
  return self.push chunk

end Rfc3339Utc

def DateTime.shown (dt : DateTime) : ℕ × ℕ :=
  if 1000000000 ≤ dt.nanosecond then (dt.second + 1, dt.nanosecond - 1000000000)
  else (dt.second, dt.nanosecond)

def DateTime.middle (dt : DateTime) : Bytes :=
  [45] ++ twoDigits dt.month ++ [45] ++ twoDigits dt.day ++ [84] ++ twoDigits dt.hour ++ [58] ++
    twoDigits dt.minute ++ [58] ++ twoDigits dt.shown.1

namespace Rfc3339Utc

def render (dt : DateTime) : Except Panic Rfc3339Utc := do
  let out : Rfc3339Utc := ⟨List.replicate renderCapacity 0, 0⟩
  let out ← out.pushYear dt.year
  let out := out.push dt.middle
  let out ← out.pushSubsecond dt.shown.2
  return out.push [90]

/-- The bytes of `as_str`. -/
def asStr (self : Rfc3339Utc) : Except Panic Bytes := sliceBytes self.bytes 0 self.len

end Rfc3339Utc

/-! ## What is written -/

open Rfc3339Utc

/-- Four digits, or a sign and at least four digits. -/
def yearText (year : ℤ) : Bytes :=
  if 0 ≤ year ∧ year ≤ 9999 then writeDigits 4 year.natAbs
  else yearSign year :: writeDigits (max (Nat.digits 10 year.natAbs).length 4) year.natAbs

/-- The fewest of 0, 3, 6 or 9 digits that are exact. -/
def exactWidth (nanosecond : ℕ) : ℕ :=
  if 10 ^ 9 ∣ nanosecond then 0
  else if 10 ^ 6 ∣ nanosecond then 3 else if 10 ^ 3 ∣ nanosecond then 6 else 9

def fractionText (nanosecond : ℕ) : Bytes :=
  if exactWidth nanosecond = 0 then []
  else 46 :: writeDigits (exactWidth nanosecond) (nanosecond / 10 ^ (9 - exactWidth nanosecond))

def DateTime.text (dt : DateTime) : Bytes :=
  yearText dt.year ++ (dt.middle ++ (fractionText dt.shown.2 ++ [90]))

variable {k j n m : ℕ}

@[simp] lemma length_writeDigits (k n : ℕ) : (writeDigits k n).length = k := by
  induction k generalizing n with
  | zero => rfl
  | succ k ih => simp [writeDigits, ih]

lemma writeDigits_take (k j n : ℕ) : (writeDigits (k + j) n).take k =
    writeDigits k (n / 10 ^ j) := by
  induction j generalizing n with
  | zero => simp
  | succ j ih =>
    rw [← Nat.add_assoc, writeDigits, take_append_of_le_length (by simp), ih, Nat.pow_succ',
      Nat.div_div_eq_div_mul]

lemma writeDigits_zero (k : ℕ) : writeDigits k 0 = List.replicate k 48 := by
  induction k with
  | zero => rfl
  | succ k ih =>
    rw [writeDigits, ih, replicate_succ']
    rfl

lemma writeDigits_pad (h : n < 10 ^ k) (j : ℕ) :
    writeDigits (j + k) n = List.replicate j 48 ++ writeDigits k n := by
  induction k generalizing n with
  | zero => rw [Nat.lt_one_iff.mp h, Nat.add_zero, writeDigits_zero, writeDigits, append_nil]
  | succ k ih =>
    have hdiv : n / 10 < 10 ^ k := Nat.div_lt_of_lt_mul (by rwa [Nat.pow_succ'] at h)
    rw [← Nat.add_assoc, writeDigits, ih hdiv, writeDigits, append_assoc]

lemma signedYearLoop_eq {first : ℕ} (written : Bytes) (h : m < 10 ^ first) :
    ∃ rest, signedYearLoop (List.replicate first 48 ++ written) first m =
      .ok (List.replicate rest 48 ++ (writeDigits (Nat.digits 10 m).length m ++ written), rest) ∧
      rest + (Nat.digits 10 m).length = first := by
  induction m using Nat.strong_induction_on generalizing first written with
  | _ m ih =>
    rw [signedYearLoop]
    split
    case isTrue hm =>
      subst hm
      exact ⟨first, rfl, rfl⟩
    case isFalse hm =>
      obtain ⟨first, rfl⟩ := Nat.exists_eq_succ_of_ne_zero (n := first)
        fun h0 => by simp [h0] at h; omega
      have hdiv : m / 10 < 10 ^ first := Nat.div_lt_of_lt_mul (by rwa [Nat.pow_succ'] at h)
      have hset : (List.replicate (first + 1) 48 ++ written).set first (digit (m % 10)) =
          List.replicate first 48 ++ ([digit (m % 10)] ++ written) := by
        rw [replicate_succ', append_assoc, set_append_right _ _ (by simp)]
        simp
      obtain ⟨rest, hrest, hlen⟩ := ih (m / 10) (by omega) ([digit (m % 10)] ++ written) hdiv
      refine ⟨rest, ?_, ?_⟩
      · rw [if_neg (by simp; omega), Nat.succ_eq_add_one, Nat.add_sub_cancel, hset, hrest,
          Nat.digits_def' (by decide) (Nat.pos_of_ne_zero hm), length_cons, writeDigits,
          append_assoc]
      · rw [Nat.digits_def' (by decide) (Nat.pos_of_ne_zero hm), length_cons]
        omega

structure Rfc3339Utc.Holds (out : Rfc3339Utc) (text : Bytes) : Prop where
  length_bytes : out.bytes.length = renderCapacity
  len_eq : out.len = text.length
  take_eq : out.bytes.take out.len = text

variable {out : Rfc3339Utc} {text : Bytes}

lemma Rfc3339Utc.Holds.push (h : out.Holds text) (chunk : Bytes)
    (hfit : text.length + chunk.length ≤ renderCapacity) :
    (out.push chunk).Holds (text ++ chunk) := by
  have hroom : out.len + chunk.length ≤ out.bytes.length := by rwa [h.len_eq, h.length_bytes]
  have hlen := h.length_bytes
  rw [Rfc3339Utc.push, if_pos hroom]
  refine ⟨?_, ?_, ?_⟩
  · grind
  · rw [length_append, h.len_eq]
  · rw [h.take_eq, h.len_eq, ← length_append, take_left]

lemma length_digits_year {year : ℤ} (h : -262143 ≤ year ∧ year ≤ 262142) :
    year.natAbs < 10 ^ 6 ∧ (Nat.digits 10 year.natAbs).length ≤ 6 := by
  have hlt : year.natAbs < 10 ^ 6 := by omega
  exact ⟨hlt, (Nat.digits_length_le_iff (by decide) _).mpr hlt⟩

lemma length_yearText {year : ℤ} (h : -262143 ≤ year ∧ year ≤ 262142) :
    (yearText year).length ≤ 7 := by
  have hdigits := (length_digits_year h).2
  unfold yearText
  split_ifs
  · simp
  · simp
    omega

lemma pushYear_holds {year : ℤ} (hyear : -262143 ≤ year ∧ year ≤ 262142) (h : out.Holds text)
    (hfit : text.length + 7 ≤ renderCapacity) :
    ∃ out', out.pushYear year = .ok out' ∧ out'.Holds (text ++ yearText year) := by
  have hlen := length_yearText hyear
  unfold pushYear
  unfold yearText at hlen ⊢
  split
  case isTrue hfour =>
    rw [if_pos hfour] at hlen
    refine ⟨_, rfl, ?_⟩
    have hdigits : twoDigits (year.natAbs / 100) ++ twoDigits (year.natAbs % 100) =
        writeDigits 4 year.natAbs := by
      simp only [twoDigits, writeDigits, nil_append, cons_append, List.cons.injEq, and_true]
      refine ⟨congrArg _ ?_, congrArg _ ?_, congrArg _ ?_, congrArg _ ?_⟩ <;> omega
    rw [hdigits]
    exact h.push _ (by omega)
  case isFalse hfour =>
    rw [if_neg hfour] at hlen
    obtain ⟨hlt, hcount⟩ := length_digits_year hyear
    obtain ⟨rest, hloop, hrest⟩ := signedYearLoop_eq [] hlt
    rw [append_nil, append_nil] at hloop
    set count := (Nat.digits 10 year.natAbs).length
    have hchunk : sliceBytes (List.replicate rest 48 ++ writeDigits count year.natAbs) (min rest 2)
        (List.replicate rest 48 ++ writeDigits count year.natAbs).length =
        .ok (writeDigits (max count 4) year.natAbs) := by
      have hpad := writeDigits_pad (Nat.lt_base_pow_length_digits (b := 10) (m := year.natAbs)
        (by decide)) (max count 4 - count)
      have hzeros : rest - min rest 2 = max count 4 - count := by omega
      rw [sliceBytes_ok (by simp), take_length, drop_append_of_le_length (by simp),
        drop_replicate, hzeros, ← hpad, Nat.sub_add_cancel (Nat.le_max_left _ _)]
    simp only [length_cons, length_writeDigits] at hlen
    have hsign := h.push [yearSign year] (by simp; omega)
    refine ⟨(out.push [yearSign year]).push (writeDigits (max count 4) year.natAbs), ?_, ?_⟩
    · rw [pushSignedYear, hloop, ok_bind]
      dsimp only
      rw [hchunk]
      rfl
    · have hall := hsign.push (writeDigits (max count 4) year.natAbs) (by simp; omega)
      rwa [append_assoc] at hall

lemma exactWidth_le (n : ℕ) : exactWidth n ≤ 9 := by
  unfold exactWidth
  split_ifs <;> omega

lemma length_fractionText (n : ℕ) : (fractionText n).length ≤ 10 := by
  have hwidth := exactWidth_le n
  unfold fractionText
  split_ifs <;> simp
  omega

lemma exactWidth_eq (hn : n < 10 ^ 9) : exactWidth n = if n = 0 then 0 else subsecondWidth n := by
  unfold exactWidth subsecondWidth
  split_ifs <;> omega

lemma pushSubsecond_holds (hn : n < 10 ^ 9) (h : out.Holds text)
    (hfit : text.length + 10 ≤ renderCapacity) :
    ∃ out', out.pushSubsecond n = .ok out' ∧ out'.Holds (text ++ fractionText n) := by
  have hwidth := exactWidth_eq hn
  have hlen := length_fractionText n
  have hle := exactWidth_le n
  unfold pushSubsecond
  unfold fractionText at hlen ⊢
  by_cases hzero : n = 0
  · rw [if_pos hzero] at hwidth
    rw [if_pos hzero, if_pos hwidth, append_nil]
    exact ⟨out, rfl, h⟩
  · rw [if_neg hzero] at hwidth
    have hpos : exactWidth n ≠ 0 := by
      rw [hwidth]
      unfold subsecondWidth
      split_ifs <;> decide
    rw [if_neg hpos] at hlen
    rw [if_neg hzero, if_neg hpos]
    have hchunk : sliceBytes (46 :: writeDigits 9 n) 0 (subsecondWidth n + 1) =
        .ok (46 :: writeDigits (exactWidth n) (n / 10 ^ (9 - exactWidth n))) := by
      rw [← hwidth, sliceBytes_ok (by simp; omega), drop_zero, take_succ_cons,
        ← writeDigits_take, Nat.add_sub_cancel' hle]
    exact ⟨_, by dsimp only; rw [hchunk]; rfl, h.push _ (by omega)⟩

lemma DateTime.shown_lt (dt : DateTime) : dt.shown.2 < 10 ^ 9 := by
  have hlt := dt.fields_lt
  unfold shown
  split_ifs <;> omega

/-- No chunk is dropped and no index is out of bounds. -/
lemma render_eq (dt : DateTime) :
    dt.text.length ≤ renderCapacity ∧ ∃ out, render dt = .ok out ∧ out.asStr = .ok dt.text := by
  have hyear := length_yearText dt.year_mem
  have hfra := length_fractionText dt.shown.2
  have hmid : dt.middle.length = 15 := rfl
  have hempty : Holds ⟨List.replicate renderCapacity 0, 0⟩ [] := ⟨length_replicate, rfl, rfl⟩
  obtain ⟨out₁, hpush₁, h₁⟩ := pushYear_holds dt.year_mem hempty (by decide)
  have h₂ := h₁.push dt.middle (by simp [renderCapacity]; omega)
  obtain ⟨out₃, hpush₃, h₃⟩ := pushSubsecond_holds dt.shown_lt h₂ (by simp [renderCapacity]; omega)
  have h₄ := h₃.push [90] (by simp [renderCapacity]; omega)
  have htext : [] ++ yearText dt.year ++ dt.middle ++ fractionText dt.shown.2 ++ [90] =
      dt.text := by
    simp [DateTime.text]
  rw [htext] at h₄
  refine ⟨by simp [DateTime.text, renderCapacity]; omega, out₃.push [90], ?_, ?_⟩
  · rw [render]
    dsimp only
    rw [hpush₁, ok_bind, hpush₃]
    rfl
  · rw [asStr, sliceBytes_ok ⟨Nat.zero_le _, ?_⟩, drop_zero, h₄.take_eq]
    rw [h₄.len_eq, h₄.length_bytes]
    simp [DateTime.text, renderCapacity]
    omega

/-! ## What the text determines -/

lemma digit_inj {a b : ℕ} (ha : a < 10) (hb : b < 10) (h : digit a = digit b) : a = b := by
  have hnat := congrArg UInt8.toNat ((UInt8.add_right_inj 48).mp h)
  rw [UInt8.toNat_ofNat', UInt8.toNat_ofNat'] at hnat
  omega

lemma mem_writeDigits {b : UInt8} (h : b ∈ writeDigits k n) : ∃ d < 10, b = digit d := by
  induction k generalizing n with
  | zero => nomatch h
  | succ k ih =>
    rcases mem_append.mp h with h | h
    · exact ih h
    · exact ⟨n % 10, by omega, mem_singleton.mp h⟩

lemma sign_notMem_writeDigits (k n : ℕ) : 45 ∉ writeDigits k n ∧ 43 ∉ writeDigits k n := by
  have hdigits : ∀ d < 10, digit d ≠ 45 ∧ digit d ≠ 43 := by decide
  constructor
  · intro h
    obtain ⟨d, hd, heq⟩ := mem_writeDigits h
    exact (hdigits d hd).1 heq.symm
  · intro h
    obtain ⟨d, hd, heq⟩ := mem_writeDigits h
    exact (hdigits d hd).2 heq.symm

lemma writeDigits_inj (hn : n < 10 ^ k) (hm : m < 10 ^ k) (h : writeDigits k n = writeDigits k m) :
    n = m := by
  induction k generalizing n m with
  | zero => omega
  | succ k ih =>
    obtain ⟨hfront, hlast⟩ := append_inj' h rfl
    rw [Nat.pow_succ'] at hn hm
    have hdiv := ih (Nat.div_lt_of_lt_mul hn) (Nat.div_lt_of_lt_mul hm) hfront
    have hmod := digit_inj (by omega) (by omega) (singleton_inj.mp hlast)
    omega

lemma yearText_inj {y y' : ℤ} (h : yearText y = yearText y') : y = y' := by
  have hlt : ∀ y : ℤ, y.natAbs < 10 ^ max (Nat.digits 10 y.natAbs).length 4 := fun y =>
    (Nat.lt_base_pow_length_digits (by decide)).trans_le
      (Nat.pow_le_pow_right (by decide) (Nat.le_max_left _ _))
  have hsign : ∀ (y : ℤ) (k n : ℕ), yearSign y ∉ writeDigits k n := by
    intro y k n
    unfold yearSign
    split_ifs
    · exact (sign_notMem_writeDigits k n).1
    · exact (sign_notMem_writeDigits k n).2
  unfold yearText at h
  split_ifs at h with hfour hfour' hfour'
  · have heq := writeDigits_inj (k := 4) (by omega) (by omega) h
    omega
  · exact absurd (h ▸ mem_cons_self) (hsign y' 4 y.natAbs)
  · exact absurd (h.symm ▸ mem_cons_self) (hsign y 4 y'.natAbs)
  · obtain ⟨hhead, htail⟩ := List.cons.inj h
    have hlen := congrArg List.length htail
    rw [length_writeDigits, length_writeDigits] at hlen
    have habs := writeDigits_inj (hlt y) (hlen ▸ hlt y') (hlen ▸ htail)
    unfold yearSign at hhead
    split_ifs at hhead with hneg hneg' hneg'
    · omega
    · exact absurd hhead (by decide)
    · exact absurd hhead (by decide)
    · omega

lemma fractionText_inj (hn : n < 10 ^ 9) (hm : m < 10 ^ 9) (h : fractionText n = fractionText m) :
    n = m := by
  have hexact : ∀ n, 10 ^ (9 - exactWidth n) ∣ n := by
    intro n
    unfold exactWidth
    split_ifs with h9 h6 h3
    · exact h9
    · exact h6
    · exact h3
    · exact one_dvd n
  have hzero : ∀ n < 10 ^ 9, exactWidth n = 0 → n = 0 := fun n hn hw =>
    Nat.eq_zero_of_dvd_of_lt (by simpa [hw] using hexact n) hn
  unfold fractionText at h
  split_ifs at h with hn0 hm0 hm0
  · rw [hzero n hn hn0, hzero m hm hm0]
  · have htail := (List.cons.inj h).2
    have hwidth := congrArg List.length htail
    rw [length_writeDigits, length_writeDigits] at hwidth
    have hle := exactWidth_le n
    have hlt : ∀ n < 10 ^ 9, ∀ w ≤ 9, n / 10 ^ (9 - w) < 10 ^ w := by
      intro n hn w hw
      rw [Nat.div_lt_iff_lt_mul (by positivity), ← Nat.pow_add, Nat.add_sub_cancel' hw]
      exact hn
    rw [← hwidth] at htail
    have hdiv := writeDigits_inj (hlt n hn _ hle) (hlt m hm _ hle) htail
    rw [← Nat.div_mul_cancel (hexact n), ← Nat.div_mul_cancel (hexact m), ← hwidth, hdiv]

lemma exists_yearText (y : ℤ) : ∃ c ds, yearText y = c :: ds ∧ 45 ∉ ds := by
  unfold yearText
  split_ifs
  · have hnot := (sign_notMem_writeDigits 4 y.natAbs).1
    cases htext : writeDigits 4 y.natAbs with
    | nil => simpa using congrArg List.length htext
    | cons c ds => exact ⟨c, ds, rfl, fun h => hnot (htext ▸ mem_cons_of_mem c h)⟩
  · exact ⟨_, _, rfl, (sign_notMem_writeDigits _ _).1⟩

lemma DateTime.text_inj {dt dt' : DateTime} (h : dt.text = dt'.text) :
    dt.year = dt'.year ∧ dt.middle = dt'.middle ∧
      fractionText dt.shown.2 = fractionText dt'.shown.2 := by
  obtain ⟨c, ds, hyear, hds⟩ := exists_yearText dt.year
  obtain ⟨c', ds', hyear', hds'⟩ := exists_yearText dt'.year
  unfold text at h
  -- The digits of the year end at the first hyphen after the first byte.
  have htail : ds = ds' := by
    have htake := congrArg (fun l => l.tail.takeWhile (· != 45)) h
    simp only [hyear, hyear', middle, cons_append, tail_cons, append_assoc] at htake
    rwa [takeWhile_ne_append hds, takeWhile_ne_append hds'] at htake
  have hlen : (yearText dt.year).length = (yearText dt'.year).length := by
    rw [hyear, hyear', htail, length_cons, length_cons]
  obtain ⟨htext, hrest⟩ := append_inj h hlen
  obtain ⟨hmid, hend⟩ := append_inj hrest rfl
  exact ⟨yearText_inj htext, hmid, append_cancel_right hend⟩

lemma twoDigits_inj {a b : ℕ} (ha : a < 100) (hb : b < 100) (h : twoDigits a = twoDigits b) :
    a = b := by
  simp only [twoDigits, List.cons.injEq, and_true] at h
  have hhigh := digit_inj (by omega) (by omega) h.1
  have hlow := digit_inj (by omega) (by omega) h.2
  omega

/-- The other is a second later than a leap second, but for the leap. -/
def DateTime.WrittenAs (dt other : DateTime) : Prop :=
  1000000000 ≤ dt.nanosecond ∧ other.nanosecond + 1000000000 = dt.nanosecond ∧
    other.second = dt.second + 1 ∧ other.year = dt.year ∧ other.month = dt.month ∧
    other.day = dt.day ∧ other.hour = dt.hour ∧ other.minute = dt.minute

lemma DateTime.WrittenAs.text_eq {dt other : DateTime} (h : dt.WrittenAs other) :
    dt.text = other.text := by
  obtain ⟨hleap, hnano, hsnd, hyear, hmonth, hday, hhour, hmin⟩ := h
  have hlt := dt.fields_lt
  have hshown : dt.shown = other.shown := by
    rw [shown, if_pos hleap, shown, if_neg (by omega), hsnd, ← hnano, Nat.add_sub_cancel]
  rw [text, middle, hshown, ← hyear, ← hmonth, ← hday, ← hhour, ← hmin]
  rfl

lemma DateTime.eq_or_writtenAs {dt dt' : DateTime} (hyear : dt.year = dt'.year)
    (hmid : dt.middle = dt'.middle) (hshown : dt.shown.2 = dt'.shown.2) :
    dt = dt' ∨ dt.WrittenAs dt' ∨ dt'.WrittenAs dt := by
  have hlt := dt.fields_lt
  have hlt' := dt'.fields_lt
  have hle : ∀ dt : DateTime, dt.shown.1 < 100 := by
    intro dt
    have hlt := dt.fields_lt
    unfold shown
    split_ifs <;> omega
  -- Each number stands at its place.
  have hfield : ∀ i, (dt.middle.drop i).take 2 = (dt'.middle.drop i).take 2 := fun i => by rw [hmid]
  have hmonth : dt.month = dt'.month := twoDigits_inj (by omega) (by omega) (hfield 1)
  have hday : dt.day = dt'.day := twoDigits_inj (by omega) (by omega) (hfield 4)
  have hhour : dt.hour = dt'.hour := twoDigits_inj (by omega) (by omega) (hfield 7)
  have hmin : dt.minute = dt'.minute := twoDigits_inj (by omega) (by omega) (hfield 10)
  have hsnd : dt.shown.1 = dt'.shown.1 := twoDigits_inj (hle dt) (hle dt') (hfield 13)
  unfold shown at hshown hsnd
  split_ifs at hshown hsnd with hleap hleap' hleap'
  · exact .inl (DateTime.ext hyear hmonth hday hhour hmin (by omega) (by omega))
  · exact .inr (.inl ⟨hleap, by omega, hsnd.symm, hyear.symm, hmonth.symm, hday.symm,
      hhour.symm, hmin.symm⟩)
  · exact .inr (.inr ⟨hleap', by omega, hsnd, hyear, hmonth, hday, hhour, hmin⟩)
  · exact .inl (DateTime.ext hyear hmonth hday hhour hmin hsnd hshown)

/-- Every date-time is rendered whole; its text determines it but for a leap second inside a minute,
which is written as the second after it. -/
theorem timestamp_text_determines (dt : DateTime) : dt.text.length ≤ renderCapacity ∧
    (∃ out, Rfc3339Utc.render dt = .ok out ∧ out.asStr = .ok dt.text) ∧
    ∀ dt' : DateTime, dt.text = dt'.text ↔ dt = dt' ∨ dt.WrittenAs dt' ∨ dt'.WrittenAs dt := by
  obtain ⟨hlen, hrender⟩ := render_eq dt
  refine ⟨hlen, hrender, fun dt' => ⟨fun h => ?_, ?_⟩⟩
  · obtain ⟨hyear, hmid, hfra⟩ := DateTime.text_inj h
    exact DateTime.eq_or_writtenAs hyear hmid (fractionText_inj dt.shown_lt dt'.shown_lt hfra)
  · rintro (rfl | h | h)
    · rfl
    · exact h.text_eq
    · exact h.text_eq.symm

/-- A leap second after `00:00:12` has the text of `00:00:13`. -/
theorem leap_second_text_shared :
    let leap : DateTime := ⟨2026, 1, 2, 0, 0, 12, 1500000000, by decide, by decide⟩
    let next : DateTime := ⟨2026, 1, 2, 0, 0, 13, 500000000, by decide, by decide⟩
    leap ≠ next ∧ (Rfc3339Utc.render leap).bind Rfc3339Utc.asStr =
      (Rfc3339Utc.render next).bind Rfc3339Utc.asStr := by
  decide +kernel

end Rastreo
