import Rastreo.Library.Results
import Rastreo.Prober.Gnmi

/-!
# The text of a path

Elements after slashes, each with its keys in brackets, and perhaps an origin before a colon.
`append_path` writes a path and `parse_path` reads a text.  A slice inside a character would be a
panic; there is none, and an element that cannot be read is taken literally.
-/

namespace Rastreo

open List String

/-! ## Reading a text -/

/-- Only what precedes the first slash can hold one. -/
def splitOrigin (raw : String) : Except Panic (String × String) :=
  let head := (splitChar '/' raw).headD ""
  match findChar head ':' with
  | some colon => do
    let origin ← sliceText raw 0 colon
    let rest ← sliceText raw (colon + 1) (utf8Len raw.toList)
    return (origin, rest)
  | none => .ok ("", raw)

/-- `strip_prefix` of a character. -/
def stripChar (c : Char) (s : String) : Option String :=
  match s.toList with
  | [] => none
  | first :: rest => if first = c then some (String.ofList rest) else none

def nextKey (remaining : String) : Except Panic (Option ((String × String) × String)) :=
  match stripChar '[' remaining with
  | none => .ok none
  | some inner =>
    match findChar inner ']' with
    | none => .ok none
    | some close => do
      let pair ← sliceText inner 0 close
      match findChar pair '=' with
      | none => return none
      | some eq =>
        let attr ← sliceText pair 0 eq
        if attr = "" then return none
        let value ← sliceText pair (eq + 1) (utf8Len pair.toList)
        let remaining ← sliceText inner (close + 1) (utf8Len inner.toList)
        return some ((attr, value), remaining)

/-- `HashMap::insert`. -/
def insertKey (key : List (String × String)) (kv : String × String) : List (String × String) :=
  key.filter (·.1 ≠ kv.1) ++ [kv]

/-- What is written of a key: its value after it, in brackets. -/
def keyText (kv : String × String) : List Char :=
  '[' :: (kv.1.toList ++ '=' :: kv.2.toList ++ [']'])

lemma stripChar_of_toList {c : Char} {s : String} {rest : List Char} (h : s.toList = c :: rest) :
    stripChar c s = some (String.ofList rest) := by
  rw [stripChar, h]
  exact if_pos rfl

lemma toList_of_stripChar {c : Char} {s inner : String} (h : stripChar c s = some inner) :
    s.toList = c :: inner.toList := by
  unfold stripChar at h
  split at h
  · cases h
  · grind [Option.some.inj, toList_ofList]

variable {remaining : String}

lemma nextKey_keyText {kv : String × String} {rest : List Char}
    (h : remaining.toList = keyText kv ++ rest) (heq : '=' ∉ kv.1.toList)
    (hclose : ']' ∉ kv.1.toList ++ '=' :: kv.2.toList) :
    nextKey remaining = .ok (if kv.1 = "" then none else some (kv, String.ofList rest)) := by
  obtain ⟨name, value⟩ := kv
  set inner := name.toList ++ '=' :: value.toList ++ ']' :: rest with hinner
  have hstrip : stripChar '[' remaining = some (String.ofList inner) := by
    refine stripChar_of_toList (h.trans ?_)
    simp [keyText, hinner]
  have hinn' : (String.ofList inner).toList = name.toList ++ '=' :: value.toList ++ ']' :: rest :=
    toList_ofList
  have hpair : (String.ofList (name.toList ++ '=' :: value.toList)).toList =
      name.toList ++ '=' :: value.toList := toList_ofList
  rw [nextKey, hstrip]
  dsimp only
  rw [findChar_of_toList hinn' hclose]
  dsimp only
  rw [sliceText_before hinn', ok_bind, findChar_of_toList hpair heq]
  dsimp only
  rw [sliceText_before hpair, ok_bind, ofList_toList, sliceText_after_char hpair rfl,
    sliceText_after_char hinn' rfl]
  split_ifs with hname
  · rfl
  · rw [ofList_toList]
    rfl

lemma nextKey_cases (remaining : String) :
    nextKey remaining = .ok none ∨ ∃ kv rest, remaining.toList = keyText kv ++ rest ∧
      nextKey remaining = .ok (some (kv, String.ofList rest)) := by
  cases hstrip : stripChar '[' remaining with
  | none => exact .inl (by rw [nextKey, hstrip])
  | some inner =>
    cases hclose : findChar inner ']' with
    | none => exact .inl (by simp only [nextKey, hstrip, hclose])
    | some close =>
      obtain ⟨pair, rest, hinner, hpai, rfl⟩ := exists_of_findChar hclose
      cases heq : findChar (String.ofList pair) '=' with
      | none =>
        left
        simp only [nextKey, hstrip, hclose, sliceText_before hinner, ok_bind, heq]
        rfl
      | some eq =>
        obtain ⟨name, value, hpair, hnam, rfl⟩ := exists_of_findChar heq
        rw [toList_ofList] at hpair
        subst hpair
        -- the text is that of a key, so it is read unless the key has no name
        have htext : remaining.toList =
            keyText (String.ofList name, String.ofList value) ++ rest := by
          rw [toList_of_stripChar hstrip, hinner]
          simp [keyText]
        have hread := nextKey_keyText htext (by simpa using hnam) (by simpa using hpai)
        split_ifs at hread
        · exact .inl hread
        · grind

lemma length_lt_of_nextKey {kv : String × String} {rest : String}
    (h : nextKey remaining = .ok (some (kv, rest))) :
    rest.toList.length < remaining.toList.length := by
  rcases nextKey_cases remaining with hnone | ⟨kv', rest', hsplit, hsome⟩
  · cases hnone.symm.trans h
  · obtain ⟨-, rfl⟩ := Prod.mk.inj (Option.some.inj (Except.ok.inj (hsome.symm.trans h)))
    rw [hsplit, keyText, toList_ofList]
    grind

/-- The loop of `parse_keyed_elem`. -/
def parseKeys (key : List (String × String)) (remaining : String) :
    Except Panic (Option (List (String × String))) :=
  if remaining = "" then .ok (some key)
  else
    match _h : nextKey remaining with
    | .error e => .error e
    | .ok none => .ok none
    | .ok (some (kv, rest)) => parseKeys (insertKey key kv) rest
termination_by remaining.toList.length
decreasing_by exact length_lt_of_nextKey _h

def parseKeyedElem (segment : String) : Except Panic (Option PathElem) :=
  match findChar segment '[' with
  | none => .ok none
  | some opening => do
    let name ← sliceText segment 0 opening
    if name = "" then return none
    let remaining ← sliceText segment opening (utf8Len segment.toList)
    let key ← parseKeys [] remaining
    return key.map (⟨name, ·⟩)

/-- `parse_elem`: what cannot be read is a name. -/
def parseElem (segment : String) : Except Panic PathElem := do
  let elem ← parseKeyedElem segment
  return elem.getD ⟨segment, []⟩

/-- `parse_path`: the origin and the elements. -/
def parsePath (raw : String) : Except Panic (String × GnmiPath) := do
  let (origin, rest) ← splitOrigin raw
  let elem ← ((splitChar '/' rest).filter (· ≠ "")).mapM parseElem
  return (origin, ⟨elem⟩)

/-! ## No text is refused -/

variable {raw : String}

lemma splitOrigin_of_not_mem {head : String} (hhead : (splitChar '/' raw).headD "" = head)
    (h : ':' ∉ head.toList) : splitOrigin raw = .ok ("", raw) := by
  grind [findChar, splitChar, headD, splitOrigin]

lemma splitOrigin_of_toList {head : String} {before after tail : List Char}
    (hhead : (splitChar '/' raw).headD "" = head) (h : head.toList = before ++ ':' :: after)
    (hfree : ':' ∉ before) (hraw : raw.toList = head.toList ++ tail) :
    splitOrigin raw = .ok (String.ofList before, String.ofList (after ++ tail)) := by
  have hfind := hhead ▸ findChar_of_toList h hfree
  have hsplit : raw.toList = before ++ ':' :: (after ++ tail) := by rw [hraw, h]; simp
  simp only [splitOrigin, hfind, sliceText_before hsplit, sliceText_after_char hsplit rfl, ok_bind]
  rfl

lemma splitOrigin_ok (raw : String) : ∃ origin rest, splitOrigin raw = .ok (origin, rest) := by
  obtain ⟨head, tail, hraw, hhead⟩ := exists_splitChar_headD '/' raw
  by_cases hcolon : ':' ∈ (String.ofList head).toList
  · obtain ⟨before, after, hsplit, hfree⟩ := eq_append_cons_of_mem hcolon
    exact ⟨_, _, splitOrigin_of_toList hhead hsplit hfree (by rw [hraw, toList_ofList])⟩
  · exact ⟨_, _, splitOrigin_of_not_mem hhead hcolon⟩

lemma parseKeys_ok (key : List (String × String)) (remaining : String) :
    ∃ parsed, parseKeys key remaining = .ok parsed := by
  fun_induction parseKeys key remaining with
  | case1 key => exact ⟨some key, rfl⟩
  | case2 key remaining _ e h =>
    rcases nextKey_cases remaining with hnone | ⟨kv, rest, -, hsome⟩
    · cases h.symm.trans hnone
    · cases h.symm.trans hsome
  | case3 => exact ⟨none, rfl⟩
  | case4 key remaining _ kv rest _ ih => exact ih

lemma parseKeyedElem_ok (segment : String) :
    ∃ elem, parseKeyedElem segment = .ok elem ∧ ∀ e ∈ elem, e.name ≠ "" := by
  rw [parseKeyedElem]
  cases hopen : findChar segment '[' with
  | none => exact ⟨none, rfl, by simp⟩
  | some opening =>
    obtain ⟨name, rest, hsplit, -, rfl⟩ := exists_of_findChar hopen
    obtain ⟨key, hkey⟩ := parseKeys_ok [] (String.ofList ('[' :: rest))
    dsimp only
    rw [sliceText_before hsplit, ok_bind, sliceText_after hsplit]
    by_cases hname : String.ofList name = ""
    · rw [if_pos hname]
      exact ⟨none, rfl, by simp⟩
    · rw [if_neg hname, ok_bind, hkey]
      simp_all

lemma parseElem_ok {segment : String} (h : segment ≠ "") :
    ∃ elem, parseElem segment = .ok elem ∧ elem.name ≠ "" := by
  obtain ⟨keyed, hkeyed, hname⟩ := parseKeyedElem_ok segment
  refine ⟨keyed.getD ⟨segment, []⟩, ?_, ?_⟩
  · rw [parseElem, hkeyed]
    rfl
  · cases keyed with
    | none => exact h
    | some elem => exact hname elem rfl

lemma parsePath_ok (raw : String) :
    ∃ origin path, parsePath raw = .ok (origin, path) ∧ ∀ e ∈ path.elem, e.name ≠ "" := by
  obtain ⟨origin, rest, horigin⟩ := splitOrigin_ok raw
  set segments := (splitChar '/' rest).filter (· ≠ "") with hseg
  have hread : ∀ segment ∈ segments, ∃ elem, parseElem segment = .ok elem ∧ elem.name ≠ "" := by
    intro segment hmem
    rw [hseg, mem_filter, decide_eq_true_iff] at hmem
    exact parseElem_ok hmem.2
  obtain ⟨elems, helems⟩ := mapM_ok fun segment hmem => (hread segment hmem).imp fun _ h => h.1
  refine ⟨origin, ⟨elems⟩, ?_, ?_⟩
  · rw [parsePath, horigin, ok_bind]
    dsimp only
    rw [← hseg, helems]
    rfl
  · intro e he
    obtain ⟨segment, hmem, hparse⟩ := exists_left_of_mem (forall₂_of_mapM_ok helems) he
    grind

/-! ## What is written is read back -/

def PathElem.sortedKeys (elem : PathElem) : List (String × String) :=
  elem.key.mergeSort fun x y => x.1 < y.1 || (x.1 == y.1 && x.2 ≤ y.2)

/-- What `append_path` writes of an element after the slash. -/
def PathElem.text (elem : PathElem) : List Char :=
  elem.name.toList ++ elem.sortedKeys.flatMap keyText

/-- The keys are those of a map, and no part holds the character that ends it. -/
structure PathElem.WellFormed (elem : PathElem) : Prop where
  named : elem.name ≠ ""
  name_free : '/' ∉ elem.name.toList ∧ '[' ∉ elem.name.toList
  distinct : (elem.key.map Prod.fst).Nodup
  key_named : ∀ kv ∈ elem.key, kv.1 ≠ ""
  key_free : ∀ kv ∈ elem.key, '/' ∉ kv.1.toList ∧ '=' ∉ kv.1.toList ∧ ']' ∉ kv.1.toList
  value_free : ∀ kv ∈ elem.key, '/' ∉ kv.2.toList ∧ ']' ∉ kv.2.toList

/-- The same name and the same map of keys. -/
def PathElem.Same (a b : PathElem) : Prop := a.name = b.name ∧ a.key.Perm b.key

lemma PathElem.perm_sortedKeys (elem : PathElem) : elem.sortedKeys.Perm elem.key :=
  mergeSort_perm _ _

lemma toList_foldl_keys (keys : List (String × String)) (out : String) :
    (keys.foldl (fun out kv => out ++ "[" ++ kv.1 ++ "=" ++ kv.2 ++ "]") out).toList =
      out.toList ++ keys.flatMap keyText := by
  induction keys generalizing out with
  | nil => simp
  | cons kv keys ih =>
    rw [foldl_cons, ih, flatMap_cons]
    simp [keyText, toList_append]

lemma toList_appendPath (out : String) (path : GnmiPath) : (appendPath out path).toList =
      out.toList ++ (path.elem.map PathElem.text).flatMap ('/' :: ·) := by
  obtain ⟨elems⟩ := path
  unfold appendPath
  induction elems generalizing out with
  | nil => simp
  | cons elem elems ih =>
    rw [foldl_cons, ih, toList_foldl_keys, map_cons, flatMap_cons]
    simp [PathElem.text, PathElem.sortedKeys, toList_append]

lemma parseKeys_flatMap {kvs key : List (String × String)}
    (hremaining : remaining.toList = kvs.flatMap keyText)
    (hdistinct : ((key ++ kvs).map Prod.fst).Nodup) (hnamed : ∀ kv ∈ kvs, kv.1 ≠ "")
    (hkey : ∀ kv ∈ kvs, '=' ∉ kv.1.toList ∧ ']' ∉ kv.1.toList)
    (hval : ∀ kv ∈ kvs, ']' ∉ kv.2.toList) :
    parseKeys key remaining = .ok (some (key ++ kvs)) := by
  induction kvs generalizing key remaining with
  | nil =>
    have hempty : remaining = "" := String.ext hremaining
    rw [parseKeys, if_pos hempty, append_nil]
  | cons kv kvs ih =>
    rw [flatMap_cons] at hremaining
    have hmem : kv ∈ kv :: kvs := mem_cons_self
    have hclose : ']' ∉ kv.1.toList ++ '=' :: kv.2.toList := by grind
    have hread := nextKey_keyText hremaining (hkey kv hmem).1 hclose
    rw [if_neg (hnamed kv hmem)] at hread
    have hnon : remaining ≠ "" := by
      rintro rfl
      cases hremaining
    -- the key is new, so the entry is added behind the others
    have hinsert : insertKey key kv = key ++ [kv] := by
      have hnew : ∀ entry ∈ key, entry.1 ≠ kv.1 := by
        intro entry hentry
        grind
      rw [insertKey, filter_eq_self.mpr fun entry hentry => decide_eq_true (hnew entry hentry)]
    have happend : key ++ kv :: kvs = (key ++ [kv]) ++ kvs := by simp
    rw [parseKeys, if_neg hnon, happend, ← hinsert]
    split
    · grind
    · grind
    · next kv' rest h =>
      obtain ⟨rfl, rfl⟩ := Prod.mk.inj (Option.some.inj (Except.ok.inj (h.symm.trans hread)))
      refine ih toList_ofList ?_ (fun e he => hnamed e (mem_cons_of_mem _ he))
        (fun e he => hkey e (mem_cons_of_mem _ he))
        (fun e he => hval e (mem_cons_of_mem _ he))
      rwa [hinsert, ← happend]

variable {elem : PathElem}

lemma PathElem.WellFormed.slash_not_mem_text (h : elem.WellFormed) : '/' ∉ elem.text := by
  have hkeys : ∀ kv ∈ elem.sortedKeys, '/' ∉ keyText kv := by
    intro kv hkv
    have hmem := elem.perm_sortedKeys.mem_iff.mp hkv
    simp [keyText, (h.key_free kv hmem).1, (h.value_free kv hmem).1]
  rw [PathElem.text, mem_append, mem_flatMap]
  rintro (hname | ⟨kv, hkv, hslash⟩)
  · exact h.name_free.1 hname
  · grind

lemma PathElem.WellFormed.text_ne_empty (h : elem.WellFormed) : String.ofList elem.text ≠ "" := by
  intro hempty
  have hnil : elem.text = [] := ofList_eq_empty_iff.mp hempty
  exact h.named (String.ext (append_eq_nil_iff.mp hnil).1)

lemma PathElem.WellFormed.parseElem_text (h : elem.WellFormed) :
    parseElem (String.ofList elem.text) = .ok ⟨elem.name, elem.sortedKeys⟩ := by
  have hperm := elem.perm_sortedKeys
  have htext : (String.ofList elem.text).toList =
      elem.name.toList ++ elem.sortedKeys.flatMap keyText :=
    toList_ofList
  cases hkeys : elem.sortedKeys with
  | nil =>
    -- without keys there is no bracket, and the whole segment is the name
    rw [hkeys, flatMap_nil, append_nil] at htext
    have hnone : findChar (String.ofList elem.text) '[' = none :=
      findChar_eq_none.mpr (htext ▸ h.name_free.2)
    rw [parseElem, parseKeyedElem, hnone, String.ext htext]
    rfl
  | cons kv kvs =>
    have hbra : elem.sortedKeys.flatMap keyText =
        '[' :: (elem.sortedKeys.flatMap keyText).tail := by
      rw [hkeys]
      rfl
    have hopen : findChar (String.ofList elem.text) '[' = some (utf8Len elem.name.toList) :=
      findChar_of_toList (hbra ▸ htext) h.name_free.2
    have hread : parseKeys [] (String.ofList (elem.sortedKeys.flatMap keyText)) =
        .ok (some ([] ++ elem.sortedKeys)) := by
      refine parseKeys_flatMap toList_ofList ?_ ?_ ?_ ?_
      · exact (hperm.map Prod.fst).nodup_iff.mpr h.distinct
      · exact fun e he => h.key_named e (hperm.mem_iff.mp he)
      · exact fun e he => (h.key_free e (hperm.mem_iff.mp he)).2
      · exact fun e he => (h.value_free e (hperm.mem_iff.mp he)).2
    rw [parseElem, parseKeyedElem, hopen]
    dsimp only
    rw [sliceText_before htext, ok_bind, ofList_toList, if_neg h.named,
      sliceText_after htext, ok_bind, hread, ← hkeys]
    rfl

lemma mapM_parseElem_appendPath {path : GnmiPath} (h : ∀ elem ∈ path.elem, elem.WellFormed) :
    ((splitChar '/' (appendPath "" path)).filter (· ≠ "")).mapM parseElem =
      .ok (path.elem.map fun elem => ⟨elem.name, elem.sortedKeys⟩) := by
  have hfree : ∀ part ∈ path.elem.map PathElem.text, '/' ∉ part := by
    intro part hpart
    obtain ⟨elem, helem, rfl⟩ := List.mem_map.mp hpart
    exact (h elem helem).slash_not_mem_text
  have hkept : ∀ segment ∈ (path.elem.map PathElem.text).map String.ofList,
      decide (segment ≠ "") = true := by
    intro segment hseg
    rw [List.map_map] at hseg
    obtain ⟨elem, helem, rfl⟩ := mem_map.mp hseg
    exact decide_eq_true (h elem helem).text_ne_empty
  rw [splitChar_flatMap hfree not_mem_nil (toList_appendPath "" path), map_cons,
    filter_cons_of_neg (by simp), filter_eq_self.mpr hkept]
  rw [List.map_map, mapM_map]
  exact mapM_eq_map fun elem helem => (h elem helem).parseElem_text

lemma headD_splitChar_appendPath {before : String} (hfree : '/' ∉ before.toList) (path : GnmiPath) :
    (splitChar '/' (before ++ appendPath "" path)).headD "" = before := by
  have hpath := toList_appendPath "" path
  cases helems : path.elem with
  | nil =>
    rw [helems] at hpath
    have hempty : appendPath "" path = "" := String.ext hpath
    rw [hempty, append_empty, splitChar_of_not_mem hfree]
    rfl
  | cons elem elems =>
    have hsplit : (before ++ appendPath "" path).toList =
        before.toList ++ '/' :: (elem.text ++ (elems.map PathElem.text).flatMap ('/' :: ·)) := by
      rw [toList_append, hpath, helems]
      rfl
    rw [splitChar_of_toList hsplit hfree, ofList_toList]
    rfl

lemma splitOrigin_appendPath (path : GnmiPath) :
    splitOrigin (appendPath "" path) = .ok ("", appendPath "" path) := by
  have hhead : (splitChar '/' ("" ++ appendPath "" path)).headD "" = "" :=
    headD_splitChar_appendPath not_mem_nil path
  exact splitOrigin_of_not_mem hhead not_mem_nil

lemma splitOrigin_origin {origin : String} (hslash : '/' ∉ origin.toList)
    (hcolon : ':' ∉ origin.toList) (path : GnmiPath) :
    splitOrigin (origin ++ ":" ++ appendPath "" path) = .ok (origin, appendPath "" path) := by
  have hfree : '/' ∉ (origin ++ ":").toList := by simp [toList_append, hslash]
  have hsplit := splitOrigin_of_toList (headD_splitChar_appendPath hfree path)
    toList_append hcolon toList_append
  rwa [ofList_toList, nil_append, ofList_toList] at hsplit

lemma parsePath_of_splitOrigin {origin : String} {path : GnmiPath}
    (h : ∀ elem ∈ path.elem, elem.WellFormed)
    (horigin : splitOrigin raw = .ok (origin, appendPath "" path)) :
    ∃ parsed, parsePath raw = .ok (origin, parsed) ∧
      List.Forall₂ PathElem.Same path.elem parsed.elem := by
  refine ⟨⟨path.elem.map fun elem => ⟨elem.name, elem.sortedKeys⟩⟩, ?_, ?_⟩
  · rw [parsePath, horigin, ok_bind]
    dsimp only
    rw [mapM_parseElem_appendPath h]
    rfl
  · rw [forall₂_map_right_iff, forall₂_same]
    exact fun elem _ => ⟨rfl, elem.perm_sortedKeys.symm⟩

/-- **The text of a path is read back**, with or without an origin in front, with the same elements
and keys; and every text is read, without a panic or an element without a name. -/
theorem path_text_round_trip : (∀ path : GnmiPath, (∀ elem ∈ path.elem, elem.WellFormed) →
      (∃ parsed, parsePath (appendPath "" path) = .ok ("", parsed) ∧
        List.Forall₂ PathElem.Same path.elem parsed.elem) ∧
      ∀ origin : String, '/' ∉ origin.toList → ':' ∉ origin.toList →
        ∃ parsed, parsePath (origin ++ ":" ++ appendPath "" path) = .ok (origin, parsed) ∧
          List.Forall₂ PathElem.Same path.elem parsed.elem) ∧
    ∀ raw : String, ∃ origin path, parsePath raw = .ok (origin, path) ∧
      ∀ elem ∈ path.elem, elem.name ≠ "" := by
  refine ⟨fun path h => ⟨?_, fun origin hslash hcolon => ?_⟩, parsePath_ok⟩
  · exact parsePath_of_splitOrigin h (splitOrigin_appendPath path)
  · exact parsePath_of_splitOrigin h (splitOrigin_origin hslash hcolon path)

/-- The keys hold colons, an equals sign and brackets. -/
def neighborElem : PathElem := ⟨"neighbor", [("id", "aa:bb=[1"), ("a[", "")]⟩

lemma wellFormed_neighborElem : neighborElem.WellFormed := by
  constructor <;> decide

/-- A colon, an equals sign and a bracket are read back behind an origin. -/
theorem path_text_round_trip_neighbor :
    ∃ parsed, parsePath ("openconfig" ++ ":" ++ appendPath "" ⟨[neighborElem]⟩) =
        .ok ("openconfig", parsed) ∧
      List.Forall₂ PathElem.Same [neighborElem] parsed.elem :=
  (path_text_round_trip.1 ⟨[neighborElem]⟩ (by simpa using wellFormed_neighborElem)).2
    "openconfig" (by decide) (by decide)

end Rastreo
