import Mathlib.Algebra.GroupWithZero.Nat
import Mathlib.Data.List.DropRight

/-!
# Text operations of the standard library

ASCII operations are given in full.  The Unicode lowercase tables are a parameter, `CaseMapping`,
with the laws the engine relies on: how ASCII text is mapped, and that lowercasing never empties a
text.
-/

namespace Rastreo

open List String

abbrev Bytes := List UInt8

def isAscii (c : Char) : Prop := c.toNat < 128

instance (c : Char) : Decidable (isAscii c) := inferInstanceAs (Decidable (_ < _))

def toAsciiLowercase (s : String) : String := String.ofList (s.toList.map Char.toLower)

def toAsciiUppercase (s : String) : String := String.ofList (s.toList.map Char.toUpper)

def eqIgnoreAsciiCase (a b : String) : Bool := toAsciiLowercase a == toAsciiLowercase b

/-- The Unicode lowercase conversions of the standard library. -/
class CaseMapping where
  /-- `char::to_lowercase`. -/
  charLower : Char → List Char
  /-- `str::to_lowercase`, which may look at a character's neighbours. -/
  strLower : String → String
  /-- ASCII characters are mapped to their ASCII lowercase form. -/
  charLower_ascii : ∀ c, isAscii c → charLower c = [c.toLower]
  /-- Leading ASCII is mapped character by character. -/
  strLower_append : ∀ a b : String, (∀ c ∈ a.toList, isAscii c) →
    ∃ t, strLower (a ++ b) = toAsciiLowercase a ++ t
  /-- ASCII text is mapped to its ASCII lowercase form. -/
  strLower_ascii : ∀ s : String, (∀ c ∈ s.toList, isAscii c) → strLower s = toAsciiLowercase s
  /-- Lowercasing never empties a text. -/
  strLower_ne_empty : ∀ s : String, s ≠ "" → strLower s ≠ ""

/-- Only ASCII is changed. -/
@[reducible] def CaseMapping.ascii : CaseMapping where
  charLower c := [c.toLower]
  strLower := toAsciiLowercase
  charLower_ascii _ _ := rfl
  strLower_append a b _ := ⟨toAsciiLowercase b, by simp [toAsciiLowercase]⟩
  strLower_ascii _ _ := rfl
  strLower_ne_empty s hs h := hs (by simpa [toAsciiLowercase] using h)

/-- The Unicode `White_Space` property. -/
def isWhitespace (c : Char) : Bool :=
  let n := c.toNat
  (9 ≤ n && n ≤ 13) || n == 32 || n == 0x85 || n == 0xA0 || n == 0x1680 ||
    (0x2000 ≤ n && n ≤ 0x200A) || n == 0x2028 || n == 0x2029 || n == 0x202F ||
    n == 0x205F || n == 0x3000

def trim (s : String) : String :=
  String.ofList ((s.toList.dropWhile isWhitespace).rdropWhile isWhitespace)

/-! ## Decoding -/

/-- The bytes that may follow a first byte; nothing if it is none of a longer character. -/
def tailTests (b : UInt8) : Option (List (UInt8 → Bool)) :=
  let within (lo hi : UInt8) (c : UInt8) : Bool := lo ≤ c && c ≤ hi
  let tail := within 0x80 0xBF
  if within 0xC2 0xDF b then some [tail]
  else if b = 0xE0 then some [within 0xA0 0xBF, tail]
  else if b = 0xED then some [within 0x80 0x9F, tail]
  else if within 0xE1 0xEF b then some [tail, tail]
  else if b = 0xF0 then some [within 0x90 0xBF, tail, tail]
  else if within 0xF1 0xF3 b then some [tail, tail, tail]
  else if b = 0xF4 then some [within 0x80 0x8F, tail, tail]
  else none

def passing : List (UInt8 → Bool) → Bytes → ℕ
  | test :: tests, b :: rest => if test b then passing tests rest + 1 else 0
  | _, _ => 0

def utf8Char (b : UInt8) (tail : Bytes) : Char :=
  Char.ofNat (tail.foldl (fun n c => n * 64 + c.toNat % 64) (b.toNat % 2 ^ (6 - tail.length)))

/-- The loop of `from_utf8_lossy`, at least one byte a round. -/
def decodeLossy : ℕ → Bytes → List Char
  | 0, _ => []
  | _ + 1, [] => []
  | n + 1, b :: rest =>
    if b < 0x80 then Char.ofNat b.toNat :: decodeLossy n rest
    else
      -- A sequence that breaks off is replaced as far as it went.
      let tests := (tailTests b).getD []
      let k := passing tests rest
      let c := if k = tests.length ∧ tests ≠ [] then utf8Char b (rest.take k) else '\uFFFD'
      c :: decodeLossy n (rest.drop k)

def fromUtf8Lossy (bytes : Bytes) : String := String.ofList (decodeLossy bytes.length bytes)

example : fromUtf8Lossy [0x61, 0xC3, 0xA9, 0xFF, 0xE2, 0x82, 0x62] = "aé\uFFFD\uFFFDb" := by decide

/-! ## Trimming -/

variable {s : String}

lemma forall_mem_of_all {p : Char → Prop} [DecidablePred p] (h : s.toList.all (p ·) = true) :
    ∀ c ∈ s.toList, p c :=
  fun c hc => of_decide_eq_true (all_eq_true.mp h c hc)

lemma trim_eq_self (h : ∀ c ∈ s.toList, isWhitespace c = false) : trim s = s := by
  have hdrop : s.toList.dropWhile isWhitespace = s.toList := by
    rw [dropWhile_eq_self_iff]
    intro hlen
    grind
  have hrdrop : s.toList.rdropWhile isWhitespace = s.toList := by
    rw [rdropWhile_eq_self_iff]
    grind
  rw [trim, hdrop, hrdrop, ofList_toList]

lemma trim_trim (s : String) : trim (trim s) = trim s := by
  set l := (s.toList.dropWhile isWhitespace).rdropWhile isWhitespace with hl
  have hdrop : l.dropWhile isWhitespace = l := by
    rw [dropWhile_eq_self_iff]
    intro hlen
    have hleft : l <+: s.toList.dropWhile isWhitespace := rdropWhile_prefix _ _
    have hlen' := hlen.trans_le hleft.length_le
    rw [hleft.getElem hlen]
    exact dropWhile_get_zero_not isWhitespace s.toList hlen'
  grind [isWhitespace, rdropWhile_idempotent, trim, toList_ofList]

lemma trim_append_of_head {p : String} {c : Char} {cs : List Char} (hp : p.toList = c :: cs)
    (hws : ∀ d ∈ p.toList, isWhitespace d = false) :
    trim (p ++ s) = p ++ String.ofList (s.toList.rdropWhile isWhitespace) := by
  have hc : isWhitespace c = false := hws c (by rw [hp]; exact mem_cons_self)
  have hdrop : (p ++ s).toList.dropWhile isWhitespace = (p ++ s).toList := by
    rw [toList_append, hp, cons_append, dropWhile_cons_of_neg (by simp [hc])]
  rw [trim, hdrop, toList_append]
  have key : ∀ l : List Char, (p.toList ++ l).rdropWhile isWhitespace
      = p.toList ++ l.rdropWhile isWhitespace := by
    intro l
    induction l using List.reverseRecOn with
    | nil =>
      rw [append_nil, rdropWhile_nil, append_nil, rdropWhile_eq_self_iff]
      intro hl h
      grind
    | append_singleton l x ih =>
      rw [← List.append_assoc]
      by_cases hx : isWhitespace x = true
      · grind [rdropWhile_concat_pos]
      · rw [rdropWhile_concat_neg _ _ _ hx, rdropWhile_concat_neg _ _ _ hx, List.append_assoc]
  rw [key, ofList_append, ofList_toList]

end Rastreo
