import Rastreo.Model.Net

/-!
# Reading addresses

`FromStr` for `IpAddr`, as the recursive-descent reader of the standard library.  A reader returns
what it read and the text after it.
-/

namespace Rastreo

/-- What was read and the rest, or nothing. -/
abbrev AddrReader (α : Type) := List Char → Option (α × List Char)

def toDigit (radix : ℕ) (c : Char) : Option ℕ :=
  let n := c.toNat
  let digit :=
    if 48 ≤ n ∧ n ≤ 57 then some (n - 48)
    else if 97 ≤ n ∧ n ≤ 122 then some (n - 87)
    else if 65 ≤ n ∧ n ≤ 90 then some (n - 55)
    else none
  digit.filter (· < radix)

/-- All the digits that follow, if not too many and of a value below the limit. -/
def readNumber (radix maxDigits limit : ℕ) (allowZeroPrefix : Bool) : AddrReader ℕ := fun s =>
  let digits := s.takeWhile fun c => (toDigit radix c).isSome
  let value := digits.foldl (fun acc c => acc * radix + (toDigit radix c).getD 0) 0
  if digits.length = 0 ∨ maxDigits < digits.length then none
  else if !allowZeroPrefix && digits.head? == some '0' && 1 < digits.length then none
  else if limit ≤ value then none
  else some (value, s.drop digits.length)

/-- Every group but the first follows a separator. -/
def readSeparator {α : Type} (sep : Char) (index : ℕ) (inner : AddrReader α) : AddrReader α :=
  fun s =>
    if index = 0 then inner s
    else
      match s with
      | [] => none
      | c :: rest => if c = sep then inner rest else none

def readIpv4Addr : AddrReader (BitVec 32) := fun s => do
  let octet := readNumber 10 3 256 false
  let (a, s) ← readSeparator '.' 0 octet s
  let (b, s) ← readSeparator '.' 1 octet s
  let (c, s) ← readSeparator '.' 2 octet s
  let (d, s) ← readSeparator '.' 3 octet s
  pure (BitVec.ofNat 32 (((a * 256 + b) * 256 + c) * 256 + d), s)

/-- With the groups still wanted: those read, whether they end in an IPv4 address, and the rest. -/
def readGroups : ℕ → ℕ → List Char → List ℕ × Bool × List Char
  | 0, _, s => ([], false, s)
  | left + 1, i, s =>
    -- An embedded IPv4 address takes two groups.
    match if 0 < left then readSeparator ':' i readIpv4Addr s else none with
    | some (v4, s) => ([v4.toNat / 65536, v4.toNat % 65536], true, s)
    | none =>
      match readSeparator ':' i (readNumber 16 4 65536 true) s with
      | none => ([], false, s)
      | some (group, s) =>
        let (groups, ipv4, s) := readGroups left (i + 1) s
        (group :: groups, ipv4, s)

def ofSegments (segs : List ℕ) : BitVec 128 :=
  BitVec.ofNat 128 (segs.foldl (fun acc seg => acc * 65536 + seg) 0)

def readIpv6Addr : AddrReader (BitVec 128) := fun s =>
  let (head, headIpv4, s) := readGroups 8 0 s
  if head.length = 8 then some (ofSegments head, s)
  else if headIpv4 then none
  else
    match s with
    | ':' :: ':' :: s =>
      let (tail, _, s) := readGroups (8 - (head.length + 1)) 0 s
      some (ofSegments (head ++ List.replicate (8 - head.length - tail.length) 0 ++ tail), s)
    | _ => none

/-- `str::parse::<IpAddr>`: the whole text is one address. -/
def IpAddr.parse (text : String) : Option IpAddr :=
  match readIpv4Addr text.toList with
  | some (bits, rest) => if rest.isEmpty then some (.v4 bits) else none
  | none =>
    match readIpv6Addr text.toList with
    | some (bits, rest) => if rest.isEmpty then some (.v6 bits) else none
    | none => none

example : IpAddr.parse "2001:db8::1:0:0:1" =
    some (.v6 0x20010db8000000000001000000000001#128) := by decide

end Rastreo
