import Rastreo.Model.Slices
import Rastreo.Model.Target

/-!
# Targets on the command line

A target is read as a network, an address, a range of addresses or a host name, in this order.  The
readers of addresses and networks are parameters that undo `Display`.
-/

namespace Rastreo

open List Function String

/-- `FromStr` of addresses and networks. -/
structure AddrParser where
  addr : String → Option IpAddr
  net : String → Except String IpNet
  quoted : String → String
  addr_display : ∀ ip, addr ip.display = some ip
  net_display : ∀ n, net n.display = .ok n
  addr_no_hyphen : ∀ {s ip}, addr s = some ip → '-' ∉ s.toList

/-- `str::split_once` at a character. -/
def splitOnce (c : Char) (s : String) : Option (String × String) :=
  if c ∈ s.toList then
    some (String.ofList (s.toList.takeWhile (· != c)),
      String.ofList ((s.toList.dropWhile (· != c)).drop 1))
  else none

section Parsing

variable (parser : AddrParser)

def AddrParser.range (s : String) : Option (IpAddr × IpAddr) := do
  let (lhs, rhs) ← splitOnce '-' s
  let start ← parser.addr (trim lhs)
  let stop ← parser.addr (trim rhs)
  pure (start, stop)

def parseTarget (input : String) : Except ConfigError Target :=
  let s := trim input
  if s = "" then .error (.invalidValue "target cannot be empty")
  else if '/' ∈ s.toList then
    match parser.net s with
    | .error e => .error (.invalidValue ("CIDR " ++ parser.quoted s ++ ": " ++ e))
    | .ok net => .ok (.cidr net)
  else
    match parser.addr s with
    | some ip => .ok (.ip ip)
    | none =>
      match parser.range s with
      | some (start, stop) => .ok (.range start stop)
      | none => .ok (.dnsName s)

end Parsing

variable {parser : AddrParser} {s : String} {c : Char}

/-! ## Texts of addresses -/

lemma IpAddr.notMem_display (hc : isDigitChar c = false) (hsep : c ≠ ':' ∧ c ≠ '.') (ip : IpAddr) :
    c ∉ ip.display.toList := by
  intro h
  rcases ip.mem_display h with hdigit | hcolon | hdot
  · simp [hc] at hdigit
  · exact hsep.1 hcolon
  · exact hsep.2 hdot

lemma IpNet.exists_display (n : IpNet) :
    ∃ (ip : IpAddr) (len : ℕ), n.display = ip.display ++ "/" ++ toString len := by
  cases n with
  | v4 addr prefixLen => exact ⟨.v4 addr, prefixLen, rfl⟩
  | v6 addr prefixLen => exact ⟨.v6 addr, prefixLen, rfl⟩

lemma IpNet.trim_display (n : IpNet) : trim n.display = n.display := by
  refine trim_eq_self fun c hc => ?_
  obtain ⟨ip, len, h⟩ := n.exists_display
  rw [h, toList_append, toList_append, mem_append, mem_append] at hc
  rcases hc with (hc | hc) | hc
  · exact (IpAddr.mem_display_props hc).1
  · rw [mem_singleton.mp hc]
    rfl
  · rw [Nat.toString_eq_repr, Nat.toList_repr] at hc
    exact (props_of_isDigitChar (isDigitChar_of_mem_toDigits (by decide) (by decide) len c hc)).1

/-! ## Reading a target back -/

lemma parseTarget_ip (ip : IpAddr) : parseTarget parser (Target.ip ip).display = .ok (.ip ip) := by
  rw [Target.display, parseTarget, ip.trim_display]
  rw [if_neg ip.display_ne_empty, if_neg (IpAddr.notMem_display (by decide) (by decide) ip),
    parser.addr_display]

lemma parseTarget_cidr (n : IpNet) : parseTarget parser (Target.cidr n).display =
    .ok (.cidr n) := by
  have hslash : '/' ∈ n.display.toList := by
    obtain ⟨ip, len, h⟩ := n.exists_display
    simp [h]
  have hne : n.display ≠ "" := fun h => by simp [h] at hslash
  rw [Target.display, parseTarget, n.trim_display]
  rw [if_neg hne, if_pos hslash, parser.net_display]

lemma splitOnce_append {before after : String} (hfree : c ∉ before.toList)
    (hs : s.toList = before.toList ++ c :: after.toList) : splitOnce c s =
      some (before, after) := by
  have hother : ∀ a ∈ before.toList, (a != c) = true := fun a ha =>
    bne_iff_ne.mpr fun heq => hfree (heq ▸ ha)
  rw [splitOnce, hs, if_pos (by simp), takeWhile_ne_append hfree,
    dropWhile_append_of_pos hother, dropWhile_cons_of_neg (by simp)]
  simp

lemma parseTarget_range (start stop : IpAddr) :
    parseTarget parser (Target.range start stop).display = .ok (.range start stop) := by
  set s := start.display ++ "-" ++ stop.display with hs
  have htext : s.toList = start.display.toList ++ '-' :: stop.display.toList := by simp [hs]
  have htrim : trim s = s := by
    refine trim_eq_self fun c hc => ?_
    rw [htext, mem_append, mem_cons] at hc
    rcases hc with hc | rfl | hc
    · exact (IpAddr.mem_display_props hc).1
    · rfl
    · exact (IpAddr.mem_display_props hc).1
  have hhyphen : '-' ∈ s.toList := by simp [htext]
  have hne : s ≠ "" := fun h => by simp [h] at hhyphen
  have hslash : ∀ ip : IpAddr, '/' ∉ ip.display.toList :=
    IpAddr.notMem_display (by decide) (by decide)
  have haddr : parser.addr s = none :=
    Option.eq_none_iff_forall_ne_some.mpr fun ip hip => parser.addr_no_hyphen hip hhyphen
  have hran : parser.range s = some (start, stop) := by
    rw [AddrParser.range,
      splitOnce_append (IpAddr.notMem_display (by decide) (by decide) start) htext]
    simp [IpAddr.trim_display, parser.addr_display]
  rw [Target.display, ← hs, parseTarget, htrim]
  grind

lemma parseTarget_trim (s : String) : parseTarget parser (trim s) = parseTarget parser s := by
  rw [parseTarget, parseTarget, trim_trim]

/-- The spelling of a target is read as the target. -/
theorem target_roundtrip (parser : AddrParser) {s : String} {target : Target}
    (h : parseTarget parser s = .ok target) :
    parseTarget parser target.display = .ok target ∧
      ∀ name, target = .dnsName name → target.display = trim s := by
  cases target with
  | ip ip => exact ⟨parseTarget_ip ip, nofun⟩
  | cidr n => exact ⟨parseTarget_cidr n, nofun⟩
  | range start stop => exact ⟨parseTarget_range start stop, nofun⟩
  | dnsName name =>
    have hname : name = trim s := by
      unfold parseTarget at h
      dsimp only at h
      split_ifs at h
      · split at h <;> cases h
      · repeat' split at h
        all_goals cases h
        rfl
    rw [Target.display, hname, parseTarget_trim]
    exact ⟨hname ▸ h, fun _ _ => rfl⟩

lemma IpNet.display_injective : Injective IpNet.display := by
  intro n m h
  have hkey : ∀ (a b : IpAddr) (i j : ℕ), a.display ++ "/" ++ toString i =
      b.display ++ "/" ++ toString j → a = b ∧ i = j := by
    intro a b i j h
    have hlist := congrArg String.toList h
    simp only [toList_append, List.append_assoc] at hlist
    have hfree : ∀ ip : IpAddr, '/' ∉ ip.display.toList :=
      IpAddr.notMem_display (by decide) (by decide)
    have haddr := congrArg (List.takeWhile (· != '/')) hlist
    rw [show "/".toList = ['/'] from rfl, singleton_append, singleton_append,
      takeWhile_ne_append (hfree a), takeWhile_ne_append (hfree b)] at haddr
    obtain rfl := IpAddr.display_injective (toList_inj.mp haddr)
    have hlen := append_cancel_left (append_cancel_left hlist)
    rw [Nat.toString_eq_repr, Nat.toString_eq_repr, Nat.toList_repr, Nat.toList_repr] at hlen
    exact ⟨rfl, toDigits_injective (by decide) (by decide) i j hlen⟩
  cases n with
  | v4 a i =>
    cases m with
    | v4 b j =>
      obtain ⟨haddr, hlen⟩ := hkey _ _ _ _ h
      rw [IpAddr.v4.inj haddr, Fin.ext hlen]
    | v6 b j => exact nomatch (hkey _ _ _ _ h).1
  | v6 a i =>
    cases m with
    | v4 b j => exact nomatch (hkey _ _ _ _ h).1
    | v6 b j =>
      obtain ⟨haddr, hlen⟩ := hkey _ _ _ _ h
      rw [IpAddr.v6.inj haddr, Fin.ext hlen]

/-- The readers that take the printed texts only. -/
noncomputable def printedParser : AddrParser where
  addr := partialInv IpAddr.display
  net s := (partialInv IpNet.display s).elim (.error "invalid IP address syntax") .ok
  quoted s := "\"" ++ s ++ "\""
  addr_display := partialInv_left fun _ _ => IpAddr.display_injective
  net_display n := by rw [partialInv_left IpNet.display_injective]; rfl
  addr_no_hyphen h := by
    have hinv := Injective.isPartialInv fun _ _ => @IpAddr.display_injective _ _
    rw [← (hinv _ _).mp h]
    exact IpAddr.notMem_display (by decide) (by decide) _

theorem target_roundtrip_blanks :
    parseTarget printedParser (Target.ip (.v4 0x0a000102#32)).display =
      .ok (.ip (.v4 0x0a000102#32)) ∧
      ∀ name, Target.ip (.v4 0x0a000102#32) = .dnsName name →
        (Target.ip (.v4 0x0a000102#32)).display = trim " 10.0.1.2 " := by
  refine target_roundtrip printedParser ?_
  rw [← parseTarget_trim, show trim " 10.0.1.2 " = (Target.ip (.v4 0x0a000102#32)).display
    by decide]
  exact parseTarget_ip _

end Rastreo
