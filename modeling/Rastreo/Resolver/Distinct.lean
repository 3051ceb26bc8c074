import Rastreo.Library.FirstOccurrence
import Rastreo.Resolver.Model

/-!
# Each address once

The loop of `each_address_once` scans a vector in place: a new address is swapped into the kept
part, and what stood there goes behind the scan.  The kept part is at every position the
first occurrences among what was scanned (`take_eachAddressOnceLoop`).
-/

namespace Rastreo

open List

section Swap

variable {α : Type} {a : Array α} {k n : ℕ} {x : α}

/-- A swap of two positions as two writes. -/
lemma toList_swapIfInBounds (hkn : k ≤ n) (hx : a[n]? = some x) :
    ∃ y, (a.swapIfInBounds k n).toList = (a.toList.set k x).set n y ∧ (k = n → y = x) := by
  obtain ⟨hn, rfl⟩ := Array.getElem?_eq_some_iff.mp hx
  have hk : k < a.size := by omega
  refine ⟨a[k], ?_, fun h => by subst h; rfl⟩
  rw [Array.swapIfInBounds_def, dif_pos hk, dif_pos hn, Array.toList_swap]

/-- What is kept grows by the address that was found. -/
lemma take_swapIfInBounds (hkn : k ≤ n) (hx : a[n]? = some x) :
    (a.swapIfInBounds k n).toList.take (k + 1) = a.toList.take k ++ [x] := by
  obtain ⟨y, hswap, hself⟩ := toList_swapIfInBounds hkn hx
  have hlen : k < a.toList.length := by
    have := (Array.getElem?_eq_some_iff.mp hx).1
    simp only [Array.length_toList]
    omega
  rw [hswap]
  rcases Nat.lt_or_eq_of_le hkn with hlt | rfl
  · rw [take_set_of_le (by omega), take_add_one, take_set_of_le le_rfl, getElem?_set_self hlen]
    rfl
  · rw [hself rfl, set_set, take_add_one, take_set_of_le le_rfl, getElem?_set_self hlen]
    rfl

/-- What has not been scanned stays. -/
lemma drop_swapIfInBounds (hkn : k ≤ n) (hx : a[n]? = some x) :
    (a.swapIfInBounds k n).toList.drop (n + 1) = a.toList.drop (n + 1) := by
  obtain ⟨y, hswap, -⟩ := toList_swapIfInBounds hkn hx
  rw [hswap, drop_set_of_lt (by omega), drop_set_of_lt (by omega)]

end Swap

/-- If the kept part holds the first occurrences among what was scanned, it holds those of all in
the end. -/
lemma take_eachAddressOnceLoop {scanned rest : List IpAddr} {ips : Array IpAddr} {kept : ℕ}
    (hkept : ips.toList.take kept = scanned.eraseDups) (hle : kept ≤ scanned.length)
    (hrest : ips.toList.drop scanned.length = rest) :
    (eachAddressOnceLoop ips kept (List.range' scanned.length rest.length)).1.toList.take
      (eachAddressOnceLoop ips kept (List.range' scanned.length rest.length)).2 =
        (scanned ++ rest).eraseDups := by
  induction rest generalizing scanned ips kept with
  | nil => simpa [eachAddressOnceLoop] using hkept
  | cons ip rest ih =>
    have hip : ips[scanned.length]? = some ip := by
      rw [← Array.getElem?_toList, ← Nat.add_zero scanned.length, ← getElem?_drop, hrest]
      rfl
    have hdrop : ips.toList.drop (scanned ++ [ip]).length = rest := by
      rw [length_append, length_singleton, ← drop_drop, hrest]
      rfl
    have hnext := @ih (scanned ++ [ip])
    rw [append_assoc, singleton_append] at hnext
    have hlen : (scanned ++ [ip]).length = scanned.length + 1 := length_append
    have hmem : (ips.extract 0 kept).contains ip = true ↔ ip ∈ scanned.eraseDups := by
      rw [Array.contains_iff_mem, ← Array.mem_toList_iff, Array.toList_extract]
      simp [hkept]
    rw [length_cons, range'_succ, eachAddressOnceLoop, hip]
    dsimp only
    split_ifs with hseen
    · refine hlen ▸ hnext ?_ (by omega) hdrop
      rw [hkept, eraseDups_concat, pushNew, if_pos (hmem.mp hseen)]
    · refine hlen ▸ hnext ?_ (by omega) ?_
      · rw [take_swapIfInBounds hle hip, hkept, eraseDups_concat, pushNew,
          if_neg (mt hmem.mpr hseen)]
      · rw [hlen, drop_swapIfInBounds hle hip, ← hlen, hdrop]

lemma eachAddressOnce_eq_eraseDups (ips : List IpAddr) : eachAddressOnce ips = ips.eraseDups := by
  have h := @take_eachAddressOnceLoop [] ips ips.toArray 0 rfl le_rfl rfl
  rw [length_nil, ← range_eq_range'] at h
  exact h

lemma length_eachAddressOnce_le (ips : List IpAddr) :
    (eachAddressOnce ips).length ≤ ips.length := by
  rw [eachAddressOnce_eq_eraseDups]
  exact (nodup_eraseDups ips).length_le_of_subset fun ip hip => mem_eraseDups.mp hip

/-- No address twice, the same addresses, and in the order in which they first occur. -/
theorem each_address_once_first_occurrences (ips : List IpAddr) :
    (eachAddressOnce ips).Nodup ∧ (∀ ip, ip ∈ eachAddressOnce ips ↔ ip ∈ ips) ∧
      (eachAddressOnce ips).Pairwise fun a b => ips.idxOf a < ips.idxOf b := by
  rw [eachAddressOnce_eq_eraseDups]
  exact ⟨nodup_eraseDups ips, fun ip => mem_eraseDups, pairwise_idxOf_eraseDups ips⟩

end Rastreo
