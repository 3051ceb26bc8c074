import Rastreo.Model.Text
import Mathlib.Data.Nat.Basic
import Mathlib.Tactic.IntervalCases

/-!
# Addresses and their textual form

`IpAddr` with its `Display` form: dotted decimal for IPv4, and the canonical text for IPv6, with
`::` for the first longest run of at least two zero segments and a dotted tail for IPv4-mapped
addresses.  Addresses with the same text are equal (`IpAddr.display_injective`).
-/

namespace Rastreo

open List

/-- An address of either family as its bits. -/
inductive IpAddr where
  | v4 (bits : BitVec 32)
  | v6 (bits : BitVec 128)
  deriving DecidableEq

/-! ## Separated digit groups -/

def fmtSubslice (sep : Char) (base : ℕ) : List ℕ → List Char
  | [] => []
  | first :: tail => Nat.toDigits base first ++ tail.flatMap fun s => sep :: Nat.toDigits base s

/-- Decimal digits or letters from `a` to `f`. -/
def isDigitChar (c : Char) : Bool :=
  (48 ≤ c.toNat && c.toNat ≤ 57) || (97 ≤ c.toNat && c.toNat ≤ 102)

lemma isDigitChar_digitChar {d : ℕ} (h : d < 16) : isDigitChar d.digitChar = true := by
  interval_cases d <;> decide

lemma digitChar_inj {d e : ℕ} (hd : d < 16) (he : e < 16) (h : d.digitChar = e.digitChar) :
    d = e := by
  have key : ∀ d : Fin 16, ∀ e : Fin 16, d.val.digitChar = e.val.digitChar → d = e := by decide
  exact congrArg Fin.val (key ⟨d, hd⟩ ⟨e, he⟩ h)

section Base

variable {base : ℕ} (hb : 1 < base) (hb16 : base ≤ 16)

include hb hb16

lemma isDigitChar_of_mem_toDigits (n : ℕ) : ∀ c ∈ Nat.toDigits base n, isDigitChar c = true := by
  induction n using Nat.strongRecOn with
  | _ n ih =>
    intro c hc
    by_cases hn : n < base
    · rw [Nat.toDigits_of_lt_base hn, mem_singleton] at hc
      exact hc ▸ isDigitChar_digitChar (by omega)
    · rw [Nat.toDigits_of_base_le hb (by omega), mem_append, mem_singleton] at hc
      rcases hc with hc | hc
      · exact ih _ (Nat.div_lt_self (by omega) hb) c hc
      · exact hc ▸ isDigitChar_digitChar (lt_of_lt_of_le (Nat.mod_lt _ (by omega)) hb16)

lemma toDigits_injective (n m : ℕ) (h : Nat.toDigits base n = Nat.toDigits base m) : n = m := by
  induction n using Nat.strongRecOn generalizing m with
  | _ n ih =>
    by_cases hn : n < base <;> by_cases hm : m < base
    · rw [Nat.toDigits_of_lt_base hn, Nat.toDigits_of_lt_base hm] at h
      exact digitChar_inj (by omega) (by omega) (singleton_inj.mp h)
    · rw [Nat.toDigits_of_lt_base hn, Nat.toDigits_of_base_le hb (by omega)] at h
      have := congrArg List.length h
      have hpos := Nat.length_toDigits_pos (b := base) (n := m / base)
      grind
    · rw [Nat.toDigits_of_lt_base hm, Nat.toDigits_of_base_le hb (by omega)] at h
      have := congrArg List.length h
      have hpos := Nat.length_toDigits_pos (b := base) (n := n / base)
      grind
    · rw [Nat.toDigits_of_base_le (n := n) hb (by omega),
        Nat.toDigits_of_base_le (n := m) hb (by omega)] at h
      obtain ⟨hdiv, hmod⟩ := append_inj' h rfl
      have hlt : ∀ k : ℕ, k % base < 16 := fun k =>
        lt_of_lt_of_le (Nat.mod_lt _ (by omega)) hb16
      have h1 := ih _ (Nat.div_lt_self (by omega) hb) _ hdiv
      have h2 := digitChar_inj (hlt n) (hlt m) (singleton_inj.mp hmod)
      rw [← Nat.div_add_mod n base, h1, h2, Nat.div_add_mod]

end Base

def StartsGroup (sep : Char) (l : List Char) : Prop := l = [] ∨ ∃ t, l = sep :: t

lemma append_startsGroup_inj {sep : Char} {x y r s : List Char} (hx : sep ∉ x) (hy : sep ∉ y)
    (hr : StartsGroup sep r) (hs : StartsGroup sep s) (h : x ++ r = y ++ s) : x = y ∧ r = s := by
  have key : ∀ z t : List Char, sep ∉ z → StartsGroup sep t →
      (z ++ t).takeWhile (· != sep) = z := by
    intro z t hz ht
    have hall : ∀ c ∈ z, (c != sep) = true := fun c hc => by grind
    rcases ht with rfl | ⟨t, rfl⟩
    · rw [append_nil, takeWhile_eq_self_iff]
      exact hall
    · rw [takeWhile_append_of_pos hall, takeWhile_cons_of_neg (by simp), append_nil]
  have hxy : x = y := by rw [← key x r hx hr, h, key y s hy hs]
  subst hxy
  simp_all

section Groups

variable {base : ℕ} {sep : Char} (hb : 1 < base) (hb16 : base ≤ 16) (hsep : isDigitChar sep = false)

include hb hb16 hsep

lemma sep_notMem_toDigits (n : ℕ) : sep ∉ Nat.toDigits base n := by
  intro h
  rw [isDigitChar_of_mem_toDigits hb hb16 n sep h] at hsep
  exact absurd hsep (by simp)

omit hb hb16 hsep in
lemma startsGroup_flatMap (l : List ℕ) :
    StartsGroup sep (l.flatMap fun s => sep :: Nat.toDigits base s) := by
  cases l with
  | nil => exact .inl rfl
  | cons n l => exact .inr ⟨_, rfl⟩

lemma flatMap_groups_inj (l m : List ℕ) (h : (l.flatMap fun s => sep :: Nat.toDigits base s)
      = m.flatMap fun s => sep :: Nat.toDigits base s) : l = m := by
  induction l generalizing m with
  | nil =>
    cases m with
    | nil => rfl
    | cons _ _ => exact absurd h (by simp)
  | cons n l ih =>
    cases m with
    | nil => exact absurd h (by simp)
    | cons k m =>
      simp only [flatMap_cons, cons_append, List.cons.injEq, true_and] at h
      obtain ⟨hn, hl⟩ := append_startsGroup_inj (sep_notMem_toDigits hb hb16 hsep n)
        (sep_notMem_toDigits hb hb16 hsep k) (startsGroup_flatMap l) (startsGroup_flatMap m) h
      rw [toDigits_injective hb hb16 n k hn, ih m hl]

lemma fmtSubslice_injective (l m : List ℕ)
    (h : fmtSubslice sep base l = fmtSubslice sep base m) : l = m := by
  have hne : ∀ n (t : List Char), Nat.toDigits base n ++ t ≠ [] := fun n t => by
    simp [Nat.toDigits_ne_nil]
  cases l with
  | nil =>
    cases m with
    | nil => rfl
    | cons k m => exact absurd h.symm (hne k _)
  | cons n l =>
    cases m with
    | nil => exact absurd h (hne n _)
    | cons k m =>
      obtain ⟨hn, hl⟩ := append_startsGroup_inj (sep_notMem_toDigits hb hb16 hsep n)
        (sep_notMem_toDigits hb hb16 hsep k) (startsGroup_flatMap l) (startsGroup_flatMap m) h
      rw [toDigits_injective hb hb16 n k hn, flatMap_groups_inj hb hb16 hsep l m hl]

end Groups

/-! ## Octets, segments and the canonical text -/

def octets (bits : BitVec 32) : List ℕ :=
  [bits.toNat / 2 ^ 24 % 256, bits.toNat / 2 ^ 16 % 256, bits.toNat / 2 ^ 8 % 256, bits.toNat % 256]

def segments (bits : BitVec 128) : List ℕ :=
  [bits.toNat / 2 ^ 112 % 65536, bits.toNat / 2 ^ 96 % 65536, bits.toNat / 2 ^ 80 % 65536,
    bits.toNat / 2 ^ 64 % 65536, bits.toNat / 2 ^ 48 % 65536, bits.toNat / 2 ^ 32 % 65536,
    bits.toNat / 2 ^ 16 % 65536, bits.toNat % 65536]

lemma octets_injective {a b : BitVec 32} (h : octets a = octets b) : a = b := by
  simp only [octets, List.cons.injEq, and_true] at h
  exact BitVec.eq_of_toNat_eq (by omega)

lemma segments_injective {a b : BitVec 128} (h : segments a = segments b) : a = b := by
  simp only [segments, List.cons.injEq, and_true] at h
  exact BitVec.eq_of_toNat_eq (by omega)

/-- A run of segments: where it starts and how long it is. -/
structure Span where
  start : ℕ
  len : ℕ
  deriving DecidableEq

/-- An empty run starts at the segment's index. -/
def Span.extend (current : Span) (i : ℕ) : Span :=
  ⟨if current.len = 0 then i else current.start, current.len + 1⟩

/-- A step of the search for the first longest run of zeros. -/
def Span.scan (st : Span × Span) (is : ℕ × ℕ) : Span × Span :=
  let (longest, current) := st
  if is.2 = 0 then
    let current := current.extend is.1
    (if longest.len < current.len then current else longest, current)
  else (longest, ⟨0, 0⟩)

def zeroes (segs : List ℕ) : Span :=
  ((segs.zipIdx.map Prod.swap).foldl Span.scan (⟨0, 0⟩, ⟨0, 0⟩)).1

/-- Not of an IPv4-mapped address. -/
def displaySegments (segs : List ℕ) : List Char :=
  let z := zeroes segs
  if 1 < z.len then
    fmtSubslice ':' 16 (segs.take z.start) ++ [':', ':'] ++
      fmtSubslice ':' 16 (segs.drop (z.start + z.len))
  else fmtSubslice ':' 16 segs

/-- The address in `::ffff:a.b.c.d`. -/
def toIpv4Mapped (bits : BitVec 128) : Option (BitVec 32) :=
  if bits.toNat / 2 ^ 32 = 0xffff then some (BitVec.ofNat 32 bits.toNat) else none

/-- `Display` for an IPv4 address. -/
def displayV4 (bits : BitVec 32) : List Char := fmtSubslice '.' 10 (octets bits)

/-- `Display` for an IPv6 address. -/
def displayV6 (bits : BitVec 128) : List Char :=
  match toIpv4Mapped bits with
  | some v4 => "::ffff:".toList ++ displayV4 v4
  | none => displaySegments (segments bits)

/-- `Display` for an address of either family. -/
def IpAddr.display : IpAddr → String
  | .v4 bits => String.ofList (displayV4 bits)
  | .v6 bits => String.ofList (displayV6 bits)

example : (IpAddr.v6 0x20010db8000000000001000000000001#128).display = "2001:db8::1:0:0:1" := by
  decide

/-- Both spans are runs of zeros in the prefix read, the current one ending with it. -/
structure Span.Sound (pre : List ℕ) (st : Span × Span) : Prop where
  /-- The longest run lies in the prefix and is zero throughout. -/
  longest_zero : ∃ a b, pre = a ++ List.replicate st.1.len 0 ++ b ∧
    (st.1.len = 0 ∨ a.length = st.1.start)
  /-- The current run ends the prefix. -/
  current_zero : ∃ a, pre = a ++ List.replicate st.2.len 0 ∧ (st.2.len = 0 ∨ a.length = st.2.start)

lemma Span.Sound.scan {pre : List ℕ} {st : Span × Span} (h : Span.Sound pre st) (s : ℕ) :
    Span.Sound (pre ++ [s]) (Span.scan st (pre.length, s)) := by
  obtain ⟨longest, current⟩ := st
  obtain ⟨⟨a, b, hab, hst⟩, ⟨c, hc, hcur⟩⟩ := h
  have hlong : ∃ a b, pre ++ [s] = a ++ List.replicate longest.len 0 ++ b ∧
      (longest.len = 0 ∨ a.length = longest.start) :=
    ⟨a, b ++ [s], by rw [hab]; simp, hst⟩
  unfold Span.scan
  by_cases hs : s = 0
  · subst hs
    have hlen : c.length = (current.extend pre.length).start := by
      unfold Span.extend
      split_ifs with hz
      · rw [hc, hz]; simp
      · grind
    have hnew : pre ++ [0] = c ++ List.replicate (current.extend pre.length).len 0 := by
      rw [hc, Span.extend, replicate_succ']; simp
    refine ⟨?_, ⟨c, hnew, .inr hlen⟩⟩
    by_cases hlt : longest.len < (current.extend pre.length).len
    · simp only [if_true, if_pos hlt]
      exact ⟨c, [], by rw [append_nil]; exact hnew, .inr hlen⟩
    · grind
  · simp only [hs, if_false]
    exact ⟨hlong, ⟨pre ++ [s], by simp, .inl rfl⟩⟩

/-- The run found by `zeroes` is a run of zeros of the list. -/
lemma zeroes_spec (segs : List ℕ) (h : (zeroes segs).len ≠ 0) :
    segs = segs.take (zeroes segs).start ++ List.replicate (zeroes segs).len 0 ++
      segs.drop ((zeroes segs).start + (zeroes segs).len) := by
  have key : ∀ l : List ℕ, Span.Sound l
      ((l.zipIdx.map Prod.swap).foldl Span.scan (⟨0, 0⟩, ⟨0, 0⟩)) := by
    intro l
    induction l using List.reverseRecOn with
    | nil => exact ⟨⟨[], [], rfl, .inl rfl⟩, ⟨[], rfl, .inl rfl⟩⟩
    | append_singleton l s ih =>
      simp only [zipIdx_append, map_append, foldl_append, zipIdx_singleton,
        map_singleton, foldl_cons, foldl_nil, Prod.swap_prod_mk, Nat.zero_add]
      exact ih.scan s
  obtain ⟨a, b, hab, hlen⟩ := (key segs).longest_zero
  have hst : a.length = (zeroes segs).start := hlen.resolve_left h
  change segs = a ++ List.replicate (zeroes segs).len 0 ++ b at hab
  generalize (zeroes segs).start = n at *
  generalize (zeroes segs).len = k at *
  subst hst
  rw [hab]
  simp

/-! ## The text determines the address -/

/-- Never two colons in a row, nor a trailing one. -/
lemma fmtSubslice_ne_append_colons (l : List ℕ) (x y : List Char) :
    fmtSubslice ':' 16 l ≠ x ++ [':'] ∧ fmtSubslice ':' 16 l ≠ x ++ ':' :: ':' :: y := by
  have hd : ∀ n : ℕ, ':' ∉ Nat.toDigits 16 n := fun n =>
    sep_notMem_toDigits (by decide) (by decide) (by decide) n
  have hne : ∀ n : ℕ, Nat.toDigits 16 n ≠ [] := fun n => Nat.toDigits_ne_nil
  -- A text of groups after a colon-free, non-empty head: peel the groups from the left.
  have key : ∀ (m : List ℕ) (z x : List Char), ':' ∉ z → z ≠ [] →
      (z ++ m.flatMap fun s => ':' :: Nat.toDigits 16 s) ≠ x ++ [':'] ∧
      ∀ y, (z ++ m.flatMap fun s => ':' :: Nat.toDigits 16 s) ≠ x ++ ':' :: ':' :: y := by
    intro m
    induction m with
    | nil =>
      intro z x hz _
      grind
    | cons n m ih =>
      intro z x hz hz0
      have hstep : ∀ w : List Char, (z ++ (n :: m).flatMap fun s => ':' :: Nat.toDigits 16 s)
          = x ++ ':' :: w → (x = z ∧ w = Nat.toDigits 16 n ++ m.flatMap fun s =>
            ':' :: Nat.toDigits 16 s) ∨ ∃ x', x = z ++ ':' :: x' ∧
            (Nat.toDigits 16 n ++ m.flatMap fun s => ':' :: Nat.toDigits 16 s)
              = x' ++ ':' :: w := by
        intro w h
        rw [flatMap_cons, append_eq_append_iff] at h
        rcases h with ⟨t, rfl, ht⟩ | ⟨t, rfl, ht⟩
        · cases t with
          | nil =>
            left
            grind
          | cons c t =>
            right
            grind
        · cases t with
          | nil =>
            left
            grind
          | cons c t =>
            rw [cons_append, List.cons.injEq] at ht
            grind
      refine ⟨fun h => ?_, fun y h => ?_⟩
      · simp_all
      · rcases hstep (':' :: y) h with ⟨-, hw⟩ | ⟨x', -, hx'⟩
        · cases hn : Nat.toDigits 16 n with
          | nil => exact hne n hn
          | cons c t =>
            rw [hn, cons_append, List.cons.injEq] at hw
            exact hd n (by rw [hn, ← hw.1]; exact mem_cons_self)
        · exact (ih _ x' (hd n) (hne n)).2 y hx'
  cases l with
  | nil => exact ⟨by simp [fmtSubslice], by simp [fmtSubslice]⟩
  | cons n m => exact ⟨(key m _ x (hd n) (hne n)).1, (key m _ x (hd n) (hne n)).2 y⟩

lemma compressed_inj {a b c d : List ℕ}
    (h : fmtSubslice ':' 16 a ++ [':', ':'] ++ fmtSubslice ':' 16 b
      = fmtSubslice ':' 16 c ++ [':', ':'] ++ fmtSubslice ':' 16 d) : a = c ∧ b = d := by
  have hinj : ∀ l m : List ℕ, fmtSubslice ':' 16 l = fmtSubslice ':' 16 m → l = m :=
    fmtSubslice_injective (by decide) (by decide) (by decide)
  have half : ∀ a b c d : List ℕ, ∀ t : List Char,
      fmtSubslice ':' 16 c = fmtSubslice ':' 16 a ++ t →
      [':', ':'] ++ fmtSubslice ':' 16 b = t ++ ([':', ':'] ++ fmtSubslice ':' 16 d) →
      t = [] := by
    intro a b c d t hc ht
    match t with
    | [] => rfl
    | [x] =>
      simp only [cons_append, nil_append, List.cons.injEq] at ht
      rw [← ht.1] at hc
      exact absurd hc (fmtSubslice_ne_append_colons c _ []).1
    | x :: y :: t =>
      simp only [cons_append, nil_append, List.cons.injEq] at ht
      rw [← ht.1, ← ht.2.1] at hc
      exact absurd hc (fmtSubslice_ne_append_colons c _ t).2
  rw [append_assoc, append_assoc, append_eq_append_iff] at h
  rcases h with ⟨t, hc, ht⟩ | ⟨t, ha, ht⟩
  · obtain rfl := half a b c d t hc ht
    rw [append_nil] at hc
    grind
  · obtain rfl := half c d a b t ha ht
    rw [append_nil] at ha
    grind

lemma displaySegments_injective {s t : List ℕ} (hlen : s.length = t.length)
    (h : displaySegments s = displaySegments t) : s = t := by
  have hcol := fmtSubslice_ne_append_colons
  unfold displaySegments at h
  by_cases hs : 1 < (zeroes s).len <;> by_cases ht : 1 < (zeroes t).len
  · rw [if_pos hs, if_pos ht] at h
    obtain ⟨hpre, hpost⟩ := compressed_inj h
    have es := zeroes_spec s (by omega)
    have et := zeroes_spec t (by omega)
    rw [hpre, hpost] at es
    have hk : (zeroes s).len = (zeroes t).len := by
      have e1 := congrArg List.length es
      have e2 := congrArg List.length et
      simp only [length_append, length_replicate] at e1 e2
      omega
    rw [es, hk]
    exact et.symm
  · rw [if_pos hs, if_neg ht, append_assoc] at h
    exact absurd h.symm (hcol t _ _).2
  · rw [if_neg hs, if_pos ht, append_assoc] at h
    exact absurd h (hcol s _ _).2
  · rw [if_neg hs, if_neg ht] at h
    exact fmtSubslice_injective (by decide) (by decide) (by decide) s t h

variable {c : Char}

lemma mem_fmtSubslice {sep : Char} {base : ℕ} (hb : 1 < base) (hb16 : base ≤ 16) {l : List ℕ}
    (h : c ∈ fmtSubslice sep base l) : isDigitChar c = true ∨ c = sep := by
  have hd := isDigitChar_of_mem_toDigits hb hb16
  cases l with
  | nil => exact absurd h not_mem_nil
  | cons n l =>
    rw [fmtSubslice, mem_append, mem_flatMap] at h
    rcases h with h | ⟨m, -, h⟩
    · exact .inl (hd n c h)
    · grind

lemma sep_mem_fmtSubslice {sep : Char} {base : ℕ} (a b : ℕ) (l : List ℕ) :
    sep ∈ fmtSubslice sep base (a :: b :: l) := by
  simp [fmtSubslice]

lemma mem_displaySegments {segs : List ℕ} (h : c ∈ displaySegments segs) :
    isDigitChar c = true ∨ c = ':' := by
  unfold displaySegments at h
  simp only at h
  split_ifs at h
  · simp only [mem_append, mem_cons, not_mem_nil, or_false, or_self] at h
    rcases h with (h | h) | h
    · exact mem_fmtSubslice (by decide) (by decide) h
    · exact .inr h
    · exact mem_fmtSubslice (by decide) (by decide) h
  · exact mem_fmtSubslice (by decide) (by decide) h

lemma colon_mem_displayV6 (bits : BitVec 128) : ':' ∈ displayV6 bits := by
  unfold displayV6
  split
  · simp
  · simp only [displaySegments]
    split_ifs
    · simp
    · exact sep_mem_fmtSubslice _ _ _

lemma colon_notMem_displayV4 (bits : BitVec 32) : ':' ∉ displayV4 bits := by
  intro h
  have := mem_fmtSubslice (by decide) (by decide) h
  exact absurd this (by decide)

lemma dot_mem_displayV4 (bits : BitVec 32) : '.' ∈ displayV4 bits :=
  sep_mem_fmtSubslice _ _ _

lemma dot_notMem_displaySegments (segs : List ℕ) : '.' ∉ displaySegments segs := by
  intro h
  exact absurd (mem_displaySegments h) (by decide)

lemma displayV4_injective {a b : BitVec 32} (h : displayV4 a = displayV4 b) : a = b :=
  octets_injective
    (fmtSubslice_injective (by decide) (by decide) (by decide) (octets a) (octets b) h)

lemma toNat_of_toIpv4Mapped {bits : BitVec 128} {v4 : BitVec 32}
    (h : toIpv4Mapped bits = some v4) : bits.toNat = 0xffff * 2 ^ 32 + v4.toNat := by
  unfold toIpv4Mapped at h
  split_ifs at h with hhi
  grind

lemma displayV6_injective {a b : BitVec 128} (h : displayV6 a = displayV6 b) : a = b := by
  unfold displayV6 at h
  cases ha : toIpv4Mapped a with
  | some x =>
    cases hb : toIpv4Mapped b with
    | some y =>
      simp only [ha, hb] at h
      have hxy := displayV4_injective (append_cancel_left h)
      apply BitVec.eq_of_toNat_eq
      rw [toNat_of_toIpv4Mapped ha, toNat_of_toIpv4Mapped hb, hxy]
    | none =>
      simp only [ha, hb] at h
      have hdot := mem_append_right "::ffff:".toList (dot_mem_displayV4 x)
      exact absurd (h ▸ hdot) (dot_notMem_displaySegments _)
  | none =>
    cases hb : toIpv4Mapped b with
    | some y =>
      simp only [ha, hb] at h
      have hdot := mem_append_right "::ffff:".toList (dot_mem_displayV4 y)
      exact absurd (h ▸ hdot) (dot_notMem_displaySegments _)
    | none =>
      simp only [ha, hb] at h
      exact segments_injective (displaySegments_injective rfl h)

/-- Two addresses with the same text are equal. -/
theorem IpAddr.display_injective {a b : IpAddr} (h : a.display = b.display) : a = b := by
  cases a with
  | v4 x =>
    cases b with
    | v4 y => rw [displayV4_injective (String.ofList_injective h)]
    | v6 y =>
      have htext : displayV4 x = displayV6 y := String.ofList_injective h
      exact absurd (htext ▸ colon_mem_displayV6 y) (colon_notMem_displayV4 x)
  | v6 x =>
    cases b with
    | v4 y =>
      have htext : displayV6 x = displayV4 y := String.ofList_injective h
      exact absurd (htext ▸ colon_mem_displayV6 x) (colon_notMem_displayV4 y)
    | v6 y => rw [displayV6_injective (String.ofList_injective h)]

lemma IpAddr.mem_display {ip : IpAddr} (h : c ∈ ip.display.toList) :
    isDigitChar c = true ∨ c = ':' ∨ c = '.' := by
  have hv4 : ∀ bits : BitVec 32, c ∈ displayV4 bits → isDigitChar c = true ∨ c = ':' ∨ c = '.' :=
    fun bits hc => (mem_fmtSubslice (by decide) (by decide) hc).imp_right .inr
  cases ip with
  | v4 bits =>
    rw [IpAddr.display, String.toList_ofList] at h
    exact hv4 bits h
  | v6 bits =>
    rw [IpAddr.display, String.toList_ofList, displayV6] at h
    split at h
    · rcases mem_append.mp h with hc | hc
      · have hpre : ∀ d ∈ "::ffff:".toList, isDigitChar d = true ∨ d = ':' ∨ d = '.' :=
          forall_mem_of_all (by decide)
        exact hpre c hc
      · exact hv4 _ hc
    · exact (mem_displaySegments h).imp_right .inl

lemma props_of_isDigitChar (h : isDigitChar c = true) :
    isWhitespace c = false ∧ isAscii c ∧ c.toLower = c := by
  have hc : c = Char.ofNat c.toNat := (Char.ofNat_toNat c).symm
  simp only [isDigitChar, Bool.or_eq_true, Bool.and_eq_true, decide_eq_true_eq] at h
  rw [hc]
  generalize c.toNat = n at h
  rcases h with ⟨hlo, hhi⟩ | ⟨hlo, hhi⟩ <;> interval_cases n <;> decide

lemma IpAddr.mem_display_props {ip : IpAddr} (h : c ∈ ip.display.toList) :
    isWhitespace c = false ∧ isAscii c ∧ c.toLower = c := by
  rcases IpAddr.mem_display h with hdigit | rfl | rfl
  · exact props_of_isDigitChar hdigit
  · decide
  · decide

variable (ip : IpAddr)

lemma IpAddr.trim_display : trim ip.display = ip.display :=
  trim_eq_self fun _ hc => (IpAddr.mem_display_props hc).1

lemma IpAddr.separator_mem_display : '.' ∈ ip.display.toList ∨ ':' ∈ ip.display.toList := by
  cases ip with
  | v4 bits =>
    rw [IpAddr.display, String.toList_ofList]
    exact .inl (dot_mem_displayV4 bits)
  | v6 bits =>
    rw [IpAddr.display, String.toList_ofList]
    exact .inr (colon_mem_displayV6 bits)

lemma IpAddr.display_ne_empty : ip.display ≠ "" := by
  intro h
  have hsep := ip.separator_mem_display
  simp [h] at hsep

end Rastreo
