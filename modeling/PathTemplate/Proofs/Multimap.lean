import PathTemplate.Multimap
import Mathlib.Data.List.Induction

/-!
# Multimap — looking up what was added

- `insertLast`                      : a name comes last, unless it is there already
- `Multimap.get_add`, `get_ofPairs` : the list of a key after additions
- `Multimap.get_put`                : the list of a key after a replacement
- `Multimap.keys_ofPairs`           : the keys are the names in the order of their first occurrence
- `Multimap.nodup_keys_ofPairs`     : each key occurs once
- `Multimap.entries_ofPairs`        : pairs grouped by their names
- `Multimap.flatMap_entries_eq`     : going through the entries of one key
- `Multimap.get?_mapValues`         : looking up what was made of the values
-/

namespace PathTemplate

/-! ## Names in the order of their first occurrence -/

/-- Names with one more at the end, unless it is there already. -/
def insertLast (ns : List Text) (n : Text) : List Text := if ns.contains n then ns else ns ++ [n]

theorem insertLast_of_mem {ns : List Text} {n : Text} (h : n ∈ ns) : insertLast ns n = ns :=
  if_pos (List.contains_iff_mem.mpr h)

theorem insertLast_of_notMem {ns : List Text} {n : Text} (h : n ∉ ns) :
    insertLast ns n = ns ++ [n] :=
  if_neg (h ∘ List.contains_iff_mem.mp)

theorem insertLast_cons_of_ne {m n : Text} (ns : List Text) (hne : m ≠ n) :
    insertLast (m :: ns) n = m :: insertLast ns n := by
  have hmem : n ∈ m :: ns ↔ n ∈ ns := by simp [hne.symm]
  by_cases hn : n ∈ ns
  · rw [insertLast_of_mem (hmem.mpr hn), insertLast_of_mem hn]
  · rw [insertLast_of_notMem (hn ∘ hmem.mp), insertLast_of_notMem hn]
    rfl

theorem nodup_insertLast {ns : List Text} (h : ns.Nodup) (n : Text) : (insertLast ns n).Nodup := by
  by_cases hn : n ∈ ns
  · rwa [insertLast_of_mem hn]
  · rw [insertLast_of_notMem hn]
    refine List.nodup_append.mpr ⟨h, by simp, ?_⟩
    rintro m hm _ hn' rfl
    exact hn (List.mem_singleton.mp hn' ▸ hm)

theorem eraseDups_append_singleton (ns : List Text) (n : Text) :
    (ns ++ [n]).eraseDups = insertLast ns.eraseDups n := by
  rw [List.eraseDups_append]
  by_cases hn : n ∈ ns
  · rw [insertLast_of_mem (List.mem_eraseDups.mpr hn)]
    simp [List.removeAll, hn]
  · rw [insertLast_of_notMem (hn ∘ List.mem_eraseDups.mp)]
    simp [List.removeAll, hn, List.eraseDups_cons]

/-- Inserting names one by one keeps the first occurrence of each. -/
theorem foldl_insertLast (ns ms : List Text) :
    ms.foldl insertLast ns.eraseDups = (ns ++ ms).eraseDups := by
  induction ms generalizing ns with
  | nil => rw [List.foldl_nil, List.append_nil]
  | cons m ms ih =>
      rw [List.foldl_cons, ← eraseDups_append_singleton, ih, List.append_assoc]
      rfl

/-- Repetitions within the names that are appended do not matter. -/
theorem eraseDups_append_eraseDups (ns ms : List Text) :
    (ns ++ ms.eraseDups).eraseDups = (ns ++ ms).eraseDups := by
  induction ms using List.reverseRecOn with
  | nil => rfl
  | append_singleton ms m ih =>
      rw [eraseDups_append_singleton, ← List.append_assoc, eraseDups_append_singleton]
      by_cases hm : m ∈ ms
      · -- The name is among those before it, so neither side has it once more.
        have hmem : m ∈ (ns ++ ms).eraseDups :=
          List.mem_eraseDups.mpr (List.mem_append_right ns hm)
        rw [insertLast_of_mem (List.mem_eraseDups.mpr hm), ih, insertLast_of_mem hmem]
      · rw [insertLast_of_notMem (hm ∘ List.mem_eraseDups.mp), ← List.append_assoc,
          eraseDups_append_singleton, ih]

theorem nodup_eraseDups (ns : List Text) : ns.eraseDups.Nodup := by
  induction ns using List.reverseRecOn with
  | nil => exact List.nodup_nil
  | append_singleton ns n ih =>
      rw [eraseDups_append_singleton]
      exact nodup_insertLast ih n

namespace Multimap

variable {α β : Type} {m : Multimap α} {key name : Text}

theorem get?_cons (k : Text) (vs : List α) (rest : List (Text × List α)) (name : Text) :
    get? ⟨(k, vs) :: rest⟩ name = if k = name then some vs else get? ⟨rest⟩ name := by
  by_cases hk : k = name
  · simp [get?, hk]
  · simp [get?, hk]

theorem get_cons (k : Text) (vs : List α) (rest : List (Text × List α)) (name : Text) :
    get ⟨(k, vs) :: rest⟩ name = if k = name then vs else get ⟨rest⟩ name := by
  rw [get, get?_cons]
  split <;> rfl

theorem get?_updateEntries (key : Text) (f : List α → List α) (entries : List (Text × List α))
    (name : Text) :
    get? ⟨updateEntries key f entries⟩ name =
      if key = name then some (f (get ⟨entries⟩ name)) else get? ⟨entries⟩ name := by
  induction entries with
  | nil => rw [updateEntries, get?_cons]; rfl
  | cons e rest ih =>
      -- The update stops at the first entry of the key, and so does the look-up.
      rcases e with ⟨k, vs⟩
      rw [updateEntries]
      split
      case isTrue hk =>
        subst hk
        rw [get?_cons, get?_cons, get_cons]
        split <;> rfl
      case isFalse hk =>
        rw [get?_cons, get?_cons, get_cons, ih]
        split
        case isTrue hname =>
          subst hname
          rw [if_neg (Ne.symm hk)]
        case isFalse => rfl

theorem get_updateEntries (key : Text) (f : List α → List α) (entries : List (Text × List α))
    (name : Text) :
    get ⟨updateEntries key f entries⟩ name =
      if key = name then f (get ⟨entries⟩ name) else get ⟨entries⟩ name := by
  rw [get, get?_updateEntries]
  split <;> rfl

/-- The list of a key after an addition. -/
theorem get_add (m : Multimap α) (key : Text) (v : α) (name : Text) :
    (m.add key v).get name = m.get name ++ if key = name then [v] else [] := by
  rw [add, get_updateEntries]
  split
  · rfl
  · exact (List.append_nil _).symm

/-- The list of a key after a replacement. -/
theorem get_put (m : Multimap α) (key : Text) (vs : List α) (name : Text) :
    (m.put key vs).get name = if key = name then vs else m.get name :=
  get_updateEntries key _ m.entries name

theorem extend_append (m : Multimap α) (ps qs : List (Text × α)) :
    m.extend (ps ++ qs) = (m.extend ps).extend qs :=
  List.foldl_append

/-- The list of a key after additions: what was there, and what was added under the key. -/
theorem get_extend (m : Multimap α) (pairs : List (Text × α)) (name : Text) :
    (m.extend pairs).get name =
      m.get name ++ pairs.flatMap fun p => if p.1 = name then [p.2] else [] := by
  induction pairs generalizing m with
  | nil => exact (List.append_nil _).symm
  | cons p pairs ih =>
      have hcons : m.extend (p :: pairs) = (m.add p.1 p.2).extend pairs := rfl
      rw [hcons, ih, get_add, List.flatMap_cons, List.append_assoc]

theorem get_ofPairs (pairs : List (Text × α)) (name : Text) :
    (ofPairs pairs).get name = pairs.flatMap fun p => if p.1 = name then [p.2] else [] :=
  get_extend .empty pairs name

/-! ## Entries -/

/-- An update puts a key that is not there yet last. -/
theorem keys_updateEntries (key : Text) (f : List α → List α) (entries : List (Text × List α)) :
    (updateEntries key f entries).map (·.1) = insertLast (entries.map (·.1)) key := by
  induction entries with
  | nil => rfl
  | cons e rest ih =>
      rw [updateEntries]
      split
      case isTrue hkey =>
        have hmem : key ∈ (e :: rest).map (·.1) := List.mem_cons.mpr (.inl hkey.symm)
        rw [insertLast_of_mem hmem]
        rfl
      case isFalse hne => rw [List.map_cons, ih, List.map_cons, insertLast_cons_of_ne _ hne]

theorem nodup_updateEntries {f : List α → List α} {entries : List (Text × List α)}
    (h : (entries.map (·.1)).Nodup) : ((updateEntries key f entries).map (·.1)).Nodup := by
  rw [keys_updateEntries]
  exact nodup_insertLast h key

theorem keys_extend (m : Multimap α) (pairs : List (Text × α)) :
    (m.extend pairs).keys = (pairs.map (·.1)).foldl insertLast m.keys := by
  induction pairs generalizing m with
  | nil => rfl
  | cons p pairs ih =>
      calc (m.extend (p :: pairs)).keys
          = ((m.add p.1 p.2).extend pairs).keys := rfl
        _ = (pairs.map (·.1)).foldl insertLast (m.add p.1 p.2).keys := ih _
        _ = (pairs.map (·.1)).foldl insertLast (insertLast m.keys p.1) := by
            rw [keys, add, keys_updateEntries]
            rfl

/-- The keys are the names that were added, in the order of their first occurrence. -/
theorem keys_ofPairs (pairs : List (Text × α)) :
    (ofPairs pairs).keys = (pairs.map (·.1)).eraseDups :=
  (keys_extend .empty pairs).trans (foldl_insertLast [] _)

/-- Each key occurs once. -/
theorem nodup_keys_ofPairs (pairs : List (Text × α)) : (ofPairs pairs).keys.Nodup := by
  rw [keys_ofPairs]
  exact nodup_eraseDups _

theorem get_of_mem (hm : m.keys.Nodup) {e : Text × List α} (he : e ∈ m.entries) :
    m.get e.1 = e.2 := by
  rcases m with ⟨entries⟩
  induction entries with
  | nil => cases he
  | cons e' rest ih =>
      rcases List.nodup_cons.mp hm with ⟨hnew, hrest⟩
      rw [get_cons]
      rcases List.mem_cons.mp he with rfl | he
      · exact if_pos rfl
      · have hne : e'.1 ≠ e.1 := by
          intro heq
          exact hnew (List.mem_map.mpr ⟨e, he, heq.symm⟩)
        rw [if_neg hne]
        exact ih hrest he

/-- Each key has one entry, with the list that is looked up. -/
theorem entries_eq (hm : m.keys.Nodup) : m.entries = m.keys.map fun key => (key, m.get key) := by
  calc m.entries
      = m.entries.map id := (List.map_id _).symm
    _ = m.entries.map fun e => (e.1, m.get e.1) :=
        List.map_congr_left fun e he => by rw [get_of_mem hm he, id]
    _ = m.keys.map fun key => (key, m.get key) := by
        rw [keys, List.map_map]
        rfl

/-- Pairs are grouped by their names: each name stands where it occurs first, with its values in
order. -/
theorem entries_ofPairs (pairs : List (Text × α)) :
    (ofPairs pairs).entries = (pairs.map (·.1)).eraseDups.map fun name =>
      (name, (pairs.filter fun p => p.1 == name).map (·.2)) := by
  have hget : ∀ name, (ofPairs pairs).get name =
      (pairs.filter fun p => p.1 == name).map (·.2) := by
    intro name
    rw [get_ofPairs]
    induction pairs with
    | nil => rfl
    | cons p pairs ih => by_cases hp : p.1 = name <;> simp [hp, ih]
  rw [entries_eq (nodup_keys_ofPairs pairs), keys_ofPairs]
  exact List.map_congr_left fun name _ => congrArg (Prod.mk name) (hget name)

theorem mem_of_mem_entries_ofPairs {pairs : List (Text × α)} {e : Text × List α} {v : α}
    (he : e ∈ (ofPairs pairs).entries) (hv : v ∈ e.2) : (e.1, v) ∈ pairs := by
  rw [entries_ofPairs] at he
  obtain ⟨name, -, rfl⟩ := List.mem_map.mp he
  obtain ⟨p, hp, rfl⟩ := List.mem_map.mp hv
  obtain ⟨hp, hname⟩ := List.mem_filter.mp hp
  rwa [← eq_of_beq hname]

/-- A list that is not empty stands in an entry of its key. -/
theorem mem_entries_of_get_ne_nil (h : m.get name ≠ []) : (name, m.get name) ∈ m.entries := by
  rcases m with ⟨entries⟩
  induction entries with
  | nil => exact absurd rfl h
  | cons e rest ih =>
      rw [get_cons] at h ⊢
      split at h
      case isTrue hname => exact List.mem_cons.mpr (.inl (by rw [if_pos hname, ← hname]))
      case isFalse hname =>
        rw [if_neg hname]
        exact List.mem_cons_of_mem e (ih h)

/-- If the entries of other keys contribute nothing, nor does an empty list, then all entries
together contribute what the entry of the key does. -/
theorem flatMap_entries_eq (hm : m.keys.Nodup) (name : Text) {f : Text × List α → List β}
    (hnil : f (name, []) = []) (hother : ∀ e ∈ m.entries, e.1 ≠ name → f e = []) :
    m.entries.flatMap f = f (name, m.get name) := by
  rcases m with ⟨entries⟩
  induction entries with
  | nil => exact hnil.symm
  | cons e rest ih =>
      rcases List.nodup_cons.mp hm with ⟨hnew, hrest⟩
      have hothers := fun e' he' => hother e' (List.mem_cons_of_mem e he')
      rw [get_cons, List.flatMap_cons]
      split
      -- The key does not occur again, so the entries after it contribute nothing.
      case isTrue hname =>
        have hnone : rest.flatMap f = [] := by
          refine List.flatMap_eq_nil_iff.mpr fun e' he' => hothers e' he' ?_
          intro heq
          exact hnew (List.mem_map.mpr ⟨e', he', heq.trans hname.symm⟩)
        rw [hnone, List.append_nil, ← hname]
      case isFalse hname =>
        rw [hother e List.mem_cons_self hname, List.nil_append]
        exact ih hrest hothers

theorem flatMap_entries (hm : m.keys.Nodup) {f : α → List β}
    (hother : ∀ e ∈ m.entries, e.1 ≠ name → e.2.flatMap f = []) :
    m.entries.flatMap (fun e => e.2.flatMap f) = (m.get name).flatMap f :=
  flatMap_entries_eq hm name rfl hother

/-! ## Values -/

theorem mapValues_cons (f : α → β) (e : Text × List α) (rest : List (Text × List α)) :
    (mapValues f ⟨e :: rest⟩).entries = (e.1, e.2.map f) :: (mapValues f ⟨rest⟩).entries :=
  rfl

theorem mapValues_updateEntries (f : α → β) {g : List α → List α} {g' : List β → List β}
    (hg : ∀ vs, (g vs).map f = g' (vs.map f)) (key : Text) (entries : List (Text × List α)) :
    mapValues f ⟨updateEntries key g entries⟩ =
      ⟨updateEntries key g' (mapValues f ⟨entries⟩).entries⟩ := by
  refine congrArg mk ?_
  induction entries with
  | nil => exact congrArg (fun vs => [(key, vs)]) (hg [])
  | cons e rest ih =>
      rw [updateEntries, mapValues_cons, updateEntries]
      split
      · rw [← hg]
        rfl
      · exact congrArg (_ :: ·) ih

theorem mapValues_add (f : α → β) (m : Multimap α) (key : Text) (v : α) :
    (m.add key v).mapValues f = (m.mapValues f).add key (f v) := by
  have happend : ∀ vs, (vs ++ [v]).map f = vs.map f ++ [f v] := fun _ => List.map_append
  exact mapValues_updateEntries f happend key m.entries

theorem mapValues_put (f : α → β) (m : Multimap α) (key : Text) (vs : List α) :
    (m.put key vs).mapValues f = (m.mapValues f).put key (vs.map f) :=
  mapValues_updateEntries f (fun _ => rfl) key m.entries

theorem keys_mapValues (f : α → β) (m : Multimap α) : (m.mapValues f).keys = m.keys :=
  List.map_map

theorem get?_mapValues (f : α → β) (m : Multimap α) (name : Text) :
    (m.mapValues f).get? name = (m.get? name).map (List.map f) := by
  rcases m with ⟨entries⟩
  induction entries with
  | nil => rfl
  | cons e rest ih =>
      have hcons : mapValues f ⟨e :: rest⟩ = ⟨(e.1, e.2.map f) :: (mapValues f ⟨rest⟩).entries⟩ := rfl
      rw [hcons, get?_cons, get?_cons]
      split
      · rfl
      · exact ih

theorem get_mapValues (f : α → β) (m : Multimap α) (name : Text) :
    (m.mapValues f).get name = (m.get name).map f := by
  rw [get, get?_mapValues, get]
  cases m.get? name <;> rfl

end Multimap
end PathTemplate
