import Rastreo.Library.ParentForest
import Mathlib.Algebra.GroupWithZero.Nat
import Mathlib.Algebra.Order.Ring.Nat
import Mathlib.Data.List.Basic

/-!
# The disjoint sets of the identity fuser

Parent pointers and ranks in two lists, lookups with and without path compression, and union by
rank; ranks are bytes and wrap.  Nodes have the same root exactly when united pairs join them, and
no rank comes near the largest byte (`UnionFind.union_find_correct`).
-/

namespace Rastreo

open List

/-- Parent pointers and ranks of the nodes `0, …, n - 1`. -/
structure UnionFind where
  parent : List ℕ
  rank : List UInt8

namespace UnionFind

def new (n : ℕ) : UnionFind := ⟨List.range n, List.replicate n 0⟩

/-- `find`: walk up until a node is its own parent. -/
def find (uf : UnionFind) (x : ℕ) : ℕ := ParentForest.climb uf.parent uf.parent.length x

/-- The second loop of `find_mut`: point the nodes of a walk at `root`. -/
def compress (root : ℕ) : ℕ → List ℕ → ℕ → List ℕ
  | 0, parent, _ => parent
  | fuel + 1, parent, cur =>
    if parent.getD cur cur = root then parent
    else compress root fuel (parent.set cur root) (parent.getD cur cur)

/-- The root of `x`, with its path compressed. -/
def findMut (uf : UnionFind) (x : ℕ) : ℕ × UnionFind :=
  let root := uf.find x
  (root, { uf with parent := compress root uf.parent.length uf.parent x })

/-- The root of smaller rank comes below the other. -/
def union (uf : UnionFind) (a b : ℕ) : UnionFind :=
  let (ra, uf) := uf.findMut a
  let (rb, uf) := uf.findMut b
  if ra = rb then uf
  else if uf.rank.getD ra 0 < uf.rank.getD rb 0 then
    { uf with parent := uf.parent.set ra rb }
  else if uf.rank.getD rb 0 < uf.rank.getD ra 0 then
    { uf with parent := uf.parent.set rb ra }
  else
    ⟨uf.parent.set rb ra, uf.rank.set ra (uf.rank.getD ra 0 + 1)⟩

/-- `components`: the root of every node. -/
def components (uf : UnionFind) : List ℕ := (List.range uf.parent.length).map uf.find

/-! ## Path compression -/

lemma exists_forest_compress (f : ParentForest) (fuel x : ℕ) (hx : x < f.parent.length) :
    ∃ g : ParentForest, g.parent = compress (f.root x) fuel f.parent x ∧
      g.parent.length = f.parent.length ∧ ∀ y, g.root y = f.root y := by
  induction fuel generalizing f x with
  | zero => exact ⟨f, rfl, rfl, fun _ => rfl⟩
  | succ fuel ih =>
    rw [compress]
    split_ifs with h
    · grind
    · have hlen : (f.redirect x hx).parent.length = f.parent.length := length_set
      have hnext : f.parentOf x < (f.redirect x hx).parent.length := hlen ▸ f.inRange x hx
      obtain ⟨g, hg, hglen, hroot⟩ := ih (f.redirect x hx) (f.parentOf x) hnext
      refine ⟨g, ?_, hglen.trans hlen, fun y => (hroot y).trans (f.root_redirect hx y)⟩
      rw [hg, f.root_redirect hx, f.root_parentOf]
      rfl

lemma compress_fuel {p : List ℕ} {root : ℕ} (hroot : p.getD root root = root) :
    ∀ {k x : ℕ}, (fun y => p.getD y y)^[k] x = root → ∀ {q : List ℕ},
      (∀ y, q.getD y y = p.getD y y ∨ q.getD y y = root) → q.length = p.length →
      ∀ fuel, k ≤ fuel → compress root fuel q x = compress root k q x := by
  intro k
  induction k with
  | zero =>
    intro x hx q hq _ fuel _
    have hxr : x = root := hx
    have hqx : q.getD x x = root := by grind
    cases fuel with
    | zero => rfl
    | succ fuel => rw [compress, compress, if_pos hqx]
  | succ k ih =>
    intro x hx q hq hlen fuel hfuel
    obtain ⟨fuel, rfl⟩ : ∃ m, fuel = m + 1 := ⟨fuel - 1, by omega⟩
    rw [compress, compress]
    split_ifs with h
    · rfl
    · have hqx : q.getD x x = p.getD x x := (hq x).resolve_right h
      rw [hqx]
      refine ih (by rwa [Function.iterate_succ_apply] at hx) ?_ (by rw [length_set, hlen])
        fuel (by omega)
      intro y
      by_cases hxlen : x < q.length
      · have hset := congrFun (ParentForest.getD_set hxlen root) y
        by_cases hyx : y = x
        · grind
        · grind
      · grind

lemma compress_of_length_le (f : ParentForest) {x fuel : ℕ} (hx : x < f.parent.length)
    (hfuel : f.parent.length ≤ fuel) :
    compress (f.root x) fuel f.parent x = compress (f.root x) f.parent.length f.parent x := by
  obtain ⟨k, hk, hroot⟩ := (f.rootsTo_root x).exists_lt f.inRange hx
  have hstop := compress_fuel (f.parentOf_root x) hroot (fun _ => .inl rfl) rfl
  grind

/-! ## Unions -/

/-- Stands for the equivalence `R` below `n`. -/
structure Represents (uf : UnionFind) (n : ℕ) (R : ℕ → ℕ → Prop) : Prop where
  /-- There are `n` nodes. -/
  size : uf.parent.length = n
  /-- A forest whose roots separate the classes of `R`. -/
  forest : ∃ f : ParentForest, f.parent = uf.parent ∧ ∀ x y, f.root x = f.root y ↔ R x y

variable {uf : UnionFind} {n : ℕ} {f : ParentForest}

lemma find_eq_root (hf : f.parent = uf.parent) (x : ℕ) : uf.find x = f.root x := by
  rw [find, ParentForest.root, hf]

variable {R : ℕ → ℕ → Prop}

lemma Represents.find_eq_iff (h : uf.Represents n R) (x y : ℕ) : uf.find x = uf.find y ↔ R x y := by
  obtain ⟨f, hf, hR⟩ := h.forest
  rw [find_eq_root hf, find_eq_root hf]
  exact hR x y

lemma represents_new (n : ℕ) : (new n).Represents n (· = ·) := by
  refine ⟨length_range, ParentForest.discrete n, rfl, fun x y => ?_⟩
  simp

lemma findMut_spec (hf : f.parent = uf.parent) {x : ℕ} (hx : x < uf.parent.length) :
    (uf.findMut x).1 = f.root x ∧ ∃ g : ParentForest, g.parent = (uf.findMut x).2.parent ∧
      g.parent.length = f.parent.length ∧ ∀ y, g.root y = f.root y := by
  have hfind : uf.find x = f.root x := find_eq_root hf x
  obtain ⟨g, hg, hlen, hroot⟩ := exists_forest_compress f f.parent.length x (hf ▸ hx)
  grind [findMut]

/-- Joined before, or through the pair. -/
def joinPair (R : ℕ → ℕ → Prop) (a b x y : ℕ) : Prop :=
  R x y ∨ (R x a ∧ R y b) ∨ (R x b ∧ R y a)

/-- Both paths are compressed, one root is pointed at the other unless they are the same, and the
rank grows where both are equal. -/
lemma union_cases (hf : f.parent = uf.parent) {a b : ℕ} (ha : a < f.parent.length)
    (hb : b < f.parent.length) :
    ∃ k : ParentForest, k.parent.length = f.parent.length ∧ (∀ y, k.root y = f.root y) ∧
      (f.root a = f.root b ∧ uf.union a b = ⟨k.parent, uf.rank⟩ ∨
        f.root a ≠ f.root b ∧ (uf.rank.getD (f.root a) 0 < uf.rank.getD (f.root b) 0 ∧
              uf.union a b = ⟨k.parent.set (f.root a) (f.root b), uf.rank⟩ ∨
            uf.rank.getD (f.root b) 0 < uf.rank.getD (f.root a) 0 ∧
              uf.union a b = ⟨k.parent.set (f.root b) (f.root a), uf.rank⟩ ∨
            uf.rank.getD (f.root a) 0 = uf.rank.getD (f.root b) 0 ∧
              uf.union a b = ⟨k.parent.set (f.root b) (f.root a),
                uf.rank.set (f.root a) (uf.rank.getD (f.root a) 0 + 1)⟩)) := by
  obtain ⟨hra, g, hg, hglen, hgroot⟩ := findMut_spec hf (hf ▸ ha)
  obtain ⟨hrb, k, hk, hklen, hkroot⟩ := findMut_spec hg (hg ▸ hglen ▸ hb)
  refine ⟨k, hklen.trans hglen, fun y => (hkroot y).trans (hgroot y), ?_⟩
  have hrank : ((uf.findMut a).2.findMut b).2.rank = uf.rank := rfl
  rw [hgroot] at hrb
  simp only [UnionFind.union, hra, hrb, hrank, ← hk]
  split_ifs with heq hlt hgt
  · exact .inl ⟨heq, congrArg (UnionFind.mk · uf.rank) hk.symm⟩
  · grind
  · grind
  · grind

lemma Represents.union (h : uf.Represents n R) {a b : ℕ} (ha : a < n) (hb : b < n) :
    (uf.union a b).Represents n (joinPair R a b) := by
  obtain ⟨hsize, f, hf, hR⟩ := h
  have hlen : f.parent.length = n := by rw [hf, hsize]
  obtain ⟨k, hklen, hkroot, hcases⟩ := union_cases hf (hlen ▸ ha) (hlen ▸ hb)
  have hfix : ∀ x, k.parentOf (f.root x) = f.root x := fun x => hkroot x ▸ k.parentOf_root x
  have hlt : ∀ x < n, f.root x < k.parent.length := fun x hx =>
    hklen ▸ ParentForest.root_lt (hlen ▸ hx)
  have hset : ∀ i v, (k.parent.set i v).length = n := fun i v => by grind
  rcases hcases with ⟨heq, hun⟩ | ⟨hne, ⟨-, hun⟩ | ⟨-, hun⟩ | ⟨-, hun⟩⟩ <;> rw [hun]
  · refine ⟨hklen.trans hlen, k, rfl, fun x y => ?_⟩
    rw [hkroot, hkroot, hR]
    refine ⟨.inl, ?_⟩
    rintro (hxy | ⟨hxa, hyb⟩ | ⟨hxb, hya⟩)
    · exact hxy
    · grind
    · grind
  -- In the linking cases one root is pointed at the other; only its side differs.
  · refine ⟨hset _ _, k.link _ _ (hfix a) (hfix b) hne (hlt a ha) (hlt b hb), rfl, fun x y => ?_⟩
    rw [k.root_link_eq_iff, hkroot, hkroot, hR, hR, hR, hR, hR]
    rfl
  all_goals
    refine ⟨hset _ _, k.link _ _ (hfix b) (hfix a) hne.symm (hlt b hb) (hlt a ha), rfl,
      fun x y => ?_⟩
    rw [k.root_link_eq_iff, hkroot, hkroot, hR, hR, hR, hR, hR]
    exact or_congr_right or_comm

/-- All unions of a list of pairs, in order. -/
def unionAll (uf : UnionFind) (pairs : List (ℕ × ℕ)) : UnionFind :=
  pairs.foldl (fun uf p => uf.union p.1 p.2) uf

variable (pairs : List (ℕ × ℕ))

/-- Joining in a generated equivalence is generation by one pair more. -/
lemma joinPair_eqvGen (a b x y : ℕ) : joinPair (Relation.EqvGen fun i j => (i, j) ∈ pairs) a b x y ↔
      Relation.EqvGen (fun i j => (i, j) ∈ pairs ++ [(a, b)]) x y := by
  have hmono : ∀ {u v}, Relation.EqvGen (fun i j => (i, j) ∈ pairs) u v →
      Relation.EqvGen (fun i j => (i, j) ∈ pairs ++ [(a, b)]) u v := fun h =>
    h.mono fun _ _ hp => mem_append_left _ hp
  have hab : Relation.EqvGen (fun i j => (i, j) ∈ pairs ++ [(a, b)]) a b :=
    .rel _ _ (mem_append_right _ (mem_singleton_self _))
  constructor
  · rintro (h | ⟨hxa, hyb⟩ | ⟨hxb, hya⟩)
    · exact hmono h
    · exact (hmono hxa).trans _ _ _ (hab.trans _ _ _ ((hmono hyb).symm _ _))
    · exact (hmono hxb).trans _ _ _ ((hab.symm _ _).trans _ _ _ ((hmono hya).symm _ _))
  · intro h
    induction h with
    | rel u v huv =>
      rcases mem_append.mp huv with huv | huv
      · exact .inl (.rel _ _ huv)
      · obtain ⟨rfl, rfl⟩ := Prod.mk.inj (mem_singleton.mp huv)
        exact .inr (.inl ⟨.refl _, .refl _⟩)
    | refl u => exact .inl (.refl u)
    | symm u v _ ih =>
      rcases ih with h | ⟨h₁, h₂⟩ | ⟨h₁, h₂⟩
      · exact .inl (h.symm _ _)
      · exact .inr (.inr ⟨h₂, h₁⟩)
      · exact .inr (.inl ⟨h₂, h₁⟩)
    | trans u v w _ _ ih₁ ih₂ =>
      have tr : ∀ {p q r}, Relation.EqvGen (fun i j => (i, j) ∈ pairs) p q →
          Relation.EqvGen (fun i j => (i, j) ∈ pairs) q r →
          Relation.EqvGen (fun i j => (i, j) ∈ pairs) p r := fun h k => h.trans _ _ _ k
      have sy : ∀ {p q}, Relation.EqvGen (fun i j => (i, j) ∈ pairs) p q →
          Relation.EqvGen (fun i j => (i, j) ∈ pairs) q p := fun h => h.symm _ _
      rcases ih₁ with h | ⟨h₁, h₂⟩ | ⟨h₁, h₂⟩ <;> rcases ih₂ with k | ⟨k₁, k₂⟩ | ⟨k₁, k₂⟩
      · exact .inl (tr h k)
      · exact .inr (.inl ⟨tr h k₁, k₂⟩)
      · exact .inr (.inr ⟨tr h k₁, k₂⟩)
      · exact .inr (.inl ⟨h₁, tr (sy k) h₂⟩)
      · exact .inr (.inl ⟨h₁, k₂⟩)
      · exact .inl (tr h₁ (sy k₂))
      · exact .inr (.inr ⟨h₁, tr (sy k) h₂⟩)
      · exact .inl (tr h₁ (sy k₂))
      · exact .inr (.inr ⟨h₁, k₂⟩)

/-- After its unions the structure stands for the generated equivalence. -/
theorem represents_unionAll (hlt : ∀ p ∈ pairs, p.1 < n ∧ p.2 < n) :
    ((new n).unionAll pairs).Represents n (Relation.EqvGen fun i j => (i, j) ∈ pairs) := by
  induction pairs using List.reverseRecOn with
  | nil =>
    obtain ⟨hsize, f, hf, hR⟩ := represents_new n
    refine ⟨hsize, f, hf, fun x y => ?_⟩
    rw [hR]
    constructor
    · rintro rfl
      exact .refl x
    · intro h
      induction h with
      | rel _ _ h => exact absurd h not_mem_nil
      | refl _ => rfl
      | symm _ _ _ ih => exact ih.symm
      | trans _ _ _ _ _ ih₁ ih₂ => exact ih₁.trans ih₂
  | append_singleton pairs p ih =>
    have hp := hlt p (mem_append_right _ (mem_singleton_self p))
    obtain ⟨hsize, f, hf, hR⟩ :=
      (ih fun q hq => hlt q (mem_append_left _ hq)).union hp.1 hp.2
    rw [unionAll, foldl_append]
    exact ⟨hsize, f, hf, fun x y => (hR x y).trans (joinPair_eqvGen pairs p.1 p.2 x y)⟩

/-! ## Ranks -/

/-- The nodes whose root is `r`. -/
def members (uf : UnionFind) (r : ℕ) : Finset ℕ :=
  (Finset.range uf.parent.length).filter fun x => uf.find x = r

/-- A root of rank `r` has `2 ^ r` nodes, and no rank is larger than the forest allows. -/
structure Ranked (uf : UnionFind) : Prop where
  length_rank : uf.rank.length = uf.parent.length
  le_card : ∀ r < uf.parent.length, uf.find r = r →
    2 ^ (uf.rank.getD r 0).toNat ≤ (uf.members r).card
  le_length : ∀ x < uf.parent.length, 2 ^ (uf.rank.getD x 0).toNat ≤ uf.parent.length

lemma card_members_le (uf : UnionFind) (r : ℕ) : (uf.members r).card ≤ uf.parent.length :=
  (Finset.card_filter_le _ _).trans (Finset.card_range _).le

lemma ranked_new (n : ℕ) : (new n).Ranked := by
  have hrank : ∀ x, (new n).rank.getD x 0 = 0 := fun x => by
    by_cases hx : x < n <;> simp [new, getD_eq_getElem?_getD, hx]
  refine ⟨by simp [new], fun r hr hroot => ?_, fun x hx => ?_⟩
  · rw [hrank]
    exact Finset.card_pos.mpr ⟨r, Finset.mem_filter.mpr ⟨Finset.mem_range.mpr hr, hroot⟩⟩
  · rw [hrank]
    exact Nat.one_le_of_lt hx

/-- The root `c` has been pointed at the root `d`. -/
structure Links (uf uf' : UnionFind) (c d : ℕ) : Prop where
  length_eq : uf'.parent.length = uf.parent.length
  find_eq : ∀ x, uf'.find x = if uf.find x = c then d else uf.find x
  lower : c < uf.parent.length ∧ uf.find c = c
  upper : d < uf.parent.length ∧ uf.find d = d
  ne : c ≠ d

variable {uf' : UnionFind} {c d : ℕ}

lemma Links.members_subset (h : uf.Links uf' c d) {r : ℕ} (hr : r ≠ c) :
    uf.members r ⊆ uf'.members r := by
  intro x hx
  obtain ⟨hlt, hx⟩ := Finset.mem_filter.mp hx
  refine Finset.mem_filter.mpr ⟨by rwa [h.length_eq], ?_⟩
  rw [h.find_eq, if_neg (hx ▸ hr), hx]

lemma Links.card_add_le (h : uf.Links uf' c d) :
    (uf.members c).card + (uf.members d).card ≤ (uf'.members d).card := by
  have hdis : Disjoint (uf.members c) (uf.members d) :=
    Finset.disjoint_filter.mpr fun x _ hxc hxd => h.ne (hxc.symm.trans hxd)
  rw [← Finset.card_union_of_disjoint hdis]
  refine Finset.card_le_card (Finset.union_subset (fun x hx => ?_) (h.members_subset h.ne.symm))
  obtain ⟨hlt, hx⟩ := Finset.mem_filter.mp hx
  refine Finset.mem_filter.mpr ⟨by rwa [h.length_eq], ?_⟩
  rw [h.find_eq, if_pos hx]

/-- Ranks stay right if the upper root is large enough for its own. -/
lemma Ranked.of_links (h : uf.Ranked) (hlinks : uf.Links uf' c d)
    (hlength : uf'.rank.length = uf.rank.length)
    (hother : ∀ x, x ≠ d → uf'.rank.getD x 0 = uf.rank.getD x 0)
    (hupper : 2 ^ (uf'.rank.getD d 0).toNat ≤ (uf'.members d).card) : uf'.Ranked := by
  have hlen := hlinks.length_eq
  refine ⟨by rw [hlength, h.length_rank, hlen], fun r hr hroot => ?_, fun x hx => ?_⟩
  · by_cases hrd : r = d
    · exact hrd ▸ hupper
    · have hfind := hlinks.find_eq r
      split_ifs at hfind with hrc
      · omega
      · rw [hroot] at hfind
        rw [hother r hrd]
        refine (h.le_card r (hlen ▸ hr) hfind.symm).trans (Finset.card_le_card ?_)
        exact hlinks.members_subset (hfind ▸ hrc)
  · by_cases hxd : x = d
    · exact hxd ▸ hupper.trans (card_members_le _ _)
    · rw [hother x hxd, hlen]
      exact h.le_length x (hlen ▸ hx)

lemma Ranked.link_keep (h : uf.Ranked) (hlinks : uf.Links uf' c d) (hrank : uf'.rank = uf.rank) :
    uf'.Ranked := by
  refine h.of_links hlinks (by rw [hrank]) (fun x _ => by rw [hrank]) ?_
  rw [hrank]
  refine (h.le_card d hlinks.upper.1 hlinks.upper.2).trans (Finset.card_le_card ?_)
  exact hlinks.members_subset hlinks.ne.symm

/-- Two trees of one rank make one of the next; the byte does not wrap, since the forest would have
`2 ^ 256` nodes. -/
lemma Ranked.link_grow (h : uf.Ranked) (hlinks : uf.Links uf' c d)
    (heq : uf.rank.getD d 0 = uf.rank.getD c 0)
    (hrank : uf'.rank = uf.rank.set d (uf.rank.getD d 0 + 1))
    (hsize : uf.parent.length < 2 ^ 256) : uf'.Ranked := by
  have hpow : 2 ^ ((uf.rank.getD d 0).toNat + 1) ≤ (uf'.members d).card := by
    have hc := h.le_card c hlinks.lower.1 hlinks.lower.2
    have hd := h.le_card d hlinks.upper.1 hlinks.upper.2
    have hsum := hlinks.card_add_le
    rw [← heq] at hc
    omega
  have hlt : (uf.rank.getD d 0).toNat + 1 < 256 := by
    refine (Nat.pow_lt_pow_iff_right one_lt_two).mp ((hpow.trans ?_).trans_lt hsize)
    exact (card_members_le _ _).trans hlinks.length_eq.le
  refine h.of_links hlinks (by rw [hrank, length_set]) (fun x hx => ?_) ?_
  · grind
  · have hset : uf'.rank.getD d 0 = uf.rank.getD d 0 + 1 := by
      have hd : d < uf.rank.length := h.length_rank ▸ hlinks.upper.1
      grind
    rw [hset, UInt8.toNat_add, UInt8.toNat_one, Nat.mod_eq_of_lt hlt]
    exact hpow

lemma Ranked.union (h : uf.Ranked) (hrep : uf.Represents n R) {a b : ℕ} (ha : a < n) (hb : b < n)
    (hn : n < 2 ^ 256) : (uf.union a b).Ranked := by
  obtain ⟨hsize, f, hf, -⟩ := hrep
  have hlen : f.parent.length = n := by rw [hf, hsize]
  obtain ⟨k, hklen, hkroot, hcases⟩ := union_cases hf (hlen ▸ ha) (hlen ▸ hb)
  have hfix : ∀ x, k.parentOf (f.root x) = f.root x := fun x => hkroot x ▸ k.parentOf_root x
  have hroot : ∀ x < n, f.root x < uf.parent.length ∧ uf.find (f.root x) = f.root x := fun x hx =>
    ⟨hf ▸ ParentForest.root_lt (hlen ▸ hx),
      (find_eq_root hf _).trans (ParentForest.root_of_fixed (f.parentOf_root x))⟩
  have hlinks : ∀ {x y} (_ : x < n) (_ : y < n) (_ : f.root x ≠ f.root y) (rank : List UInt8),
      uf.Links ⟨k.parent.set (f.root x) (f.root y), rank⟩ (f.root x) (f.root y) := by
    intro x y hx hy hne rank
    have hklt : ∀ z < n, f.root z < k.parent.length := fun z hz =>
      hklen ▸ hf ▸ (hroot z hz).1
    refine ⟨by rw [length_set, hklen, hf], fun z => ?_, hroot x hx, hroot y hy, hne⟩
    rw [find_eq_root (f := k.link _ _ (hfix x) (hfix y) hne (hklt x hx) (hklt y hy)) rfl,
      k.root_link, hkroot, find_eq_root hf]
  rcases hcases with ⟨-, hun⟩ | ⟨hne, ⟨-, hun⟩ | ⟨-, hun⟩ | ⟨heq, hun⟩⟩ <;> rw [hun]
  · have hfind : ∀ x, (⟨k.parent, uf.rank⟩ : UnionFind).find x = uf.find x := fun x => by
      rw [find_eq_root (f := k) rfl, hkroot, find_eq_root hf]
    have hlen' : k.parent.length = uf.parent.length := by rw [hklen, hf]
    obtain ⟨hrank, hcard, hle⟩ := h
    refine ⟨hrank.trans hlen'.symm, fun r hr hr' => ?_, fun x hx => ?_⟩
    · rw [hfind] at hr'
      have := hcard r (hlen' ▸ hr) hr'
      simpa only [members, hfind, hlen'] using this
    · exact hlen' ▸ hle x (hlen' ▸ hx)
  · exact h.link_keep (hlinks ha hb hne _) rfl
  · exact h.link_keep (hlinks hb ha hne.symm _) rfl
  · exact h.link_grow (hlinks hb ha hne.symm _) heq rfl (hsize ▸ hn)

lemma ranked_unionAll (hlt : ∀ p ∈ pairs, p.1 < n ∧ p.2 < n) (hn : n < 2 ^ 256) :
    ((new n).unionAll pairs).Ranked := by
  induction pairs using List.reverseRecOn with
  | nil => exact ranked_new n
  | append_singleton pairs p ih =>
    have hp := hlt p (mem_append_right _ (mem_singleton_self p))
    have hlt' : ∀ q ∈ pairs, q.1 < n ∧ q.2 < n := fun q hq => hlt q (mem_append_left _ hq)
    rw [unionAll, foldl_append]
    exact (ih hlt').union (represents_unionAll pairs hlt') hp.1 hp.2 hn

/-- After any unions below `n` all pointers are nodes, lookups walk to a root in at most `n` steps,
compression changes no lookup, and nodes have the same root exactly when the pairs join them. A root
of rank `r` has `2 ^ r` members, so no rank gets near the largest byte. -/
theorem union_find_correct (n : ℕ) (pairs : List (ℕ × ℕ)) (hlt : ∀ p ∈ pairs, p.1 < n ∧ p.2 < n) :
    let uf := (new n).unionAll pairs
    (uf.parent.length = n ∧ ∀ x < n, uf.parent.getD x x < n) ∧
      (∀ x < n, uf.find x < n ∧ (uf.findMut x).1 = uf.find x ∧
        uf.parent.getD (uf.find x) (uf.find x) = uf.find x ∧
        (∃ k < n, (fun y => uf.parent.getD y y)^[k] x = uf.find x) ∧
        (∀ fuel ≥ n, compress (uf.find x) fuel uf.parent x = (uf.findMut x).2.parent) ∧
        ∀ y, (uf.findMut x).2.find y = uf.find y) ∧
      (∀ x y, uf.find x = uf.find y ↔ Relation.EqvGen (fun i j => (i, j) ∈ pairs) x y) ∧
      (n < 2 ^ 64 → uf.rank.length = n ∧ (∀ r < n, uf.find r = r →
          2 ^ (uf.rank.getD r 0).toNat ≤ ((Finset.range n).filter (uf.find · = r)).card) ∧
        ∀ x < n, (uf.rank.getD x 0).toNat < 64) := by
  intro uf
  have hrep : uf.Represents n (Relation.EqvGen fun i j => (i, j) ∈ pairs) :=
    represents_unionAll pairs hlt
  have hsize : uf.parent.length = n := hrep.size
  obtain ⟨f, hf, -⟩ := hrep.forest
  have hlen : f.parent.length = n := by rw [hf, hsize]
  have hrange : ∀ x < n, uf.parent.getD x x < n := fun x hx => by
    have := f.inRange x (hlen ▸ hx)
    rwa [hf, hsize] at this
  refine ⟨⟨hsize, hrange⟩, fun x hx => ?_, hrep.find_eq_iff, fun hn => ?_⟩
  · have hfind := find_eq_root hf x
    have hwalk : RootsTo (fun y => uf.parent.getD y y) x (uf.find x) := by
      rw [hfind, ← hf]
      exact f.rootsTo_root x
    refine ⟨?_, rfl, hwalk.1, hwalk.exists_lt hrange hx, fun fuel hfuel => ?_, fun y => ?_⟩
    · rw [hfind, ← hlen]
      exact ParentForest.root_lt (hlen ▸ hx)
    · change _ = compress (uf.find x) uf.parent.length uf.parent x
      rw [hfind, ← hf]
      exact compress_of_length_le f (hlen ▸ hx) (hlen ▸ hfuel)
    · obtain ⟨-, g, hg, -, hroot⟩ := findMut_spec hf (hsize ▸ hx)
      rw [find_eq_root hg, hroot, find_eq_root hf]
  · have hran : uf.Ranked :=
      ranked_unionAll pairs hlt (hn.trans (Nat.pow_lt_pow_right one_lt_two (by decide)))
    refine ⟨hran.length_rank.trans hsize, fun r hr hroot => ?_, fun x hx => ?_⟩
    · have hcard := hran.le_card r (hsize ▸ hr) hroot
      rwa [members, hsize] at hcard
    · refine (Nat.pow_lt_pow_iff_right one_lt_two).mp (lt_of_le_of_lt ?_ hn)
      exact hsize ▸ hran.le_length x (hsize ▸ hx)

/-- Two trees of rank one are joined to one of rank two. -/
theorem union_find_correct_five : let uf := (new 5).unionAll [(0, 1), (2, 3), (1, 3)]
    uf.rank = [2, 0, 1, 0, 0] ∧ uf.find 3 = 0 ∧
      2 ^ (uf.rank.getD 0 0).toNat ≤ ((Finset.range 5).filter (uf.find · = 0)).card := by
  intro uf
  obtain ⟨-, -, -, hrank⟩ := union_find_correct 5 [(0, 1), (2, 3), (1, 3)] (by decide)
  exact ⟨by decide, by decide, (hrank (by decide)).2.1 0 (by decide) (by decide)⟩

end UnionFind

end Rastreo
