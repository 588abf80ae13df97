import PathTemplate.Cache
import Mathlib.Data.List.Dedup
import Mathlib.Data.List.DropRight

/-!
# Cache — stored templates are those that compiling gives

Handles share entries if they stand for one store, so what a run of calls does is told store by
store.

- `Caches.Effect`         : what one call does to the caches, case by case
- `Caches.WellFormed`     : every entry is what its key compiles to, and none has the key of another
- `Caches.StoreEffect`    : what one call does to one store
- `Caches.history`        : calls, each with the caches at which it is made
- `Caches.requestedSince` : the keys that a store has been asked for since it was last cleared
- `Caches.mem_keys_after` : these are the keys of the store
- `Caches.serial_eq_iff`  : a store keeps its entries until it is cleared
- `Caches.transparent`    : so a cache shows in nothing but the identity of templates
-/

namespace PathTemplate.Caches

variable {c c' : Caches} {call : Call} {key : CacheKey} {t : Template} {e : CacheEntry} {h s : Nat}

def compiled (key : CacheKey) : Except TemplateError Template :=
  (Template.compileWith key.1 key.2).value

def store (c : Caches) (s : Nat) : List CacheEntry := c.stores.getD s []

def keys (c : Caches) (s : Nat) : List CacheKey := (c.store s).map (·.key)

/-! ## Calls and stores -/

namespace Call

def handle? : Call → Option Nat
  | create => none
  | share _ => none
  | get handle _ _ => some handle
  | clear handle => some handle
  | matchPath _ _ => some shared

def key? : Call → Option CacheKey
  | get _ text o => some (text, o)
  | matchPath text _ => some (text, {})
  | _ => none

def isClear : Call → Bool
  | clear _ => true
  | _ => false

def worksOn (c : Caches) (s : Nat) (call : Call) : Bool :=
  call.handle?.any fun handle => c.storeOf handle == s

def clears (c : Caches) (s : Nat) (call : Call) : Bool := call.isClear && call.worksOn c s

/-- The key that a call asks a store for, if it compiles. -/
def requests (c : Caches) (s : Nat) (call : Call) : List CacheKey :=
  if call.worksOn c s then call.key?.toList.filter fun key => (compiled key).isOk else []

theorem worksOn_eq (hhandle : call.handle? = some h) : call.worksOn c s = (c.storeOf h == s) := by
  rw [worksOn, hhandle, Option.any_some]

theorem clears_of_key? (hkey : call.key? = some key) : call.clears c s = false := by
  cases call with
  | get | matchPath => rfl
  | create | share | clear => cases hkey

theorem requests_of_key? (hkey : call.key? = none) : call.requests c s = [] := by
  simp [requests, hkey]

theorem requests_of_clears (hclears : call.clears c s = true) : call.requests c s = [] := by
  apply requests_of_key?
  cases hkey : call.key? with
  | none => rfl
  | some key =>
      rw [clears_of_key? hkey] at hclears
      cases hclears

theorem mem_requests_iff : key ∈ call.requests c s ↔
    call.worksOn c s = true ∧ call.key? = some key ∧ (compiled key).isOk = true := by
  rw [requests]
  split_ifs with h
  · simp [h]
  · simp [h]

theorem mem_requests_iff_of_asked {k : CacheKey} (hhandle : call.handle? = some h)
    (hkey : call.key? = some key) :
    k ∈ call.requests c s ↔ k = key ∧ c.storeOf h = s ∧ (compiled key).isOk = true := by
  rw [mem_requests_iff, worksOn_eq hhandle, hkey, beq_iff_eq, Option.some_inj]
  constructor
  · rintro ⟨hs, rfl, hok⟩
    exact ⟨rfl, hs, hok⟩
  · rintro ⟨rfl, hs, hok⟩
    exact ⟨hs, rfl, hok⟩

end Call

/-- What a call does to the caches. -/
inductive Effect (c : Caches) : Call → Caches → Prop
  | create : Effect c .create c.create
  | share (h : Nat) : Effect c (.share h) (c.share h)
  | clear (h : Nat) : Effect c (.clear h) (c.clear h)
  | hit {call : Call} {h : Nat} {key : CacheKey} {e : CacheEntry} :
      call.handle? = some h → call.key? = some key → c.find? h key = some e → Effect c call c
  | failed {call : Call} {h : Nat} {key : CacheKey} {e : TemplateError} :
      call.handle? = some h → call.key? = some key → compiled key = .error e → Effect c call c
  | inserted {call : Call} {h : Nat} {key : CacheKey} {t : Template} :
      call.handle? = some h → call.key? = some key → c.find? h key = none →
      compiled key = .ok t → Effect c call (c.insert h key t).2

/-! ## One call -/

section Get

variable {text : Text} {o : CompileOptions}

/-- A template that is asked for is stored already, does not compile, or is put into the store. -/
theorem get_cases (c : Caches) (h : Nat) (text : Text) (o : CompileOptions) :
    (∃ e, c.find? h (text, o) = some e ∧ (c.get h text o).value = (.ok e, c)) ∨
      (∃ e, compiled (text, o) = .error e ∧ (c.get h text o).value = (.error e, c)) ∨
      ∃ t, c.find? h (text, o) = none ∧ compiled (text, o) = .ok t ∧
        (c.get h text o).value = (.ok (c.insert h (text, o) t).1, (c.insert h (text, o) t).2) := by
  rw [get, compiled]
  cases hfind : c.find? h (text, o) with
  | some e => exact .inl ⟨e, rfl, rfl⟩
  | none =>
      cases hcompiled : (Template.compileWith text o).value with
      | error e => exact .inr (.inl ⟨e, rfl, by simp [hcompiled]⟩)
      | ok t => exact .inr (.inr ⟨t, rfl, rfl, by simp [hcompiled]⟩)

theorem matchPath_eq (c : Caches) (text path : Text) :
    (c.matchPath text path).value =
      ((c.get shared text {}).value.1.map fun e =>
          (e.template.matcher.run (path.dropLeading '/')).value.1,
        (c.get shared text {}).value.2) := by
  rw [matchPath, Logged.value_bind]
  rcases (c.get shared text {}).value with ⟨r, c'⟩
  cases r with
  | error e => rfl
  | ok e => rfl

/-- What asking for a template does is the effect of any call that asks for it. -/
theorem effect_get (hhandle : call.handle? = some h) (hkey : call.key? = some (text, o)) :
    Effect c call (c.get h text o).value.2 := by
  rcases c.get_cases h text o with ⟨e, hfind, hget⟩ | ⟨e, he, hget⟩ | ⟨t, hfind, ht, hget⟩
  · rw [hget]
    exact .hit hhandle hkey hfind
  · rw [hget]
    exact .failed hhandle hkey he
  · rw [hget]
    exact .inserted hhandle hkey hfind ht

end Get

theorem effect_call (c : Caches) (call : Call) : Effect c call (c.call call).value.2 := by
  cases call with
  | create => exact .create
  | share h => exact .share h
  | get h text o => exact effect_get rfl rfl
  | clear h => exact .clear h
  | matchPath text path =>
      rw [Caches.call, Logged.value_bind, matchPath_eq]
      exact effect_get rfl rfl

/-! ## Handles -/

theorem getD_append_singleton {α : Type} (xs : List α) (x d : α) (n : Nat) :
    (xs ++ [x]).getD n d = if n = xs.length then x else xs.getD n d := by
  rw [List.getD_eq_getElem?_getD, List.getD_eq_getElem?_getD, List.getElem?_append]
  split_ifs with hlt heq heq
  · omega
  · rfl
  · simp [heq]
  · have hle : xs.length ≤ n := Nat.le_of_not_lt hlt
    have hpos : n - xs.length ≠ 0 := by omega
    simp [hle, hpos]

theorem storeOf_create (c : Caches) (h : Nat) :
    c.create.storeOf h = if h = c.handles.length then c.stores.length else c.storeOf h :=
  getD_append_singleton c.handles c.stores.length 0 h

theorem storeOf_share (c : Caches) (h' h : Nat) :
    (c.share h').storeOf h = if h = c.handles.length then c.storeOf h' else c.storeOf h :=
  getD_append_singleton c.handles (c.storeOf h') 0 h

/-- A handle that exists stands for one store forever. -/
theorem Effect.storeOf_eq (heffect : Effect c call c') (hlt : h < c.handles.length) :
    c'.storeOf h = c.storeOf h := by
  have hne : h ≠ c.handles.length := Nat.ne_of_lt hlt
  cases heffect with
  | create => rw [storeOf_create, if_neg hne]
  | share h' => rw [storeOf_share, if_neg hne]
  | clear | hit | failed | inserted => rfl

/-! ## Entries of a store -/

theorem store_create (c : Caches) (s : Nat) : c.create.store s = c.store s := by
  rw [store, create, getD_append_singleton]
  split_ifs with h
  · simp [store, h]
  · rfl

theorem store_set {s' : Nat} {es : List CacheEntry} (hlt : s' < c.stores.length) (s : Nat) :
    (c.stores.set s' es).getD s [] = if s' = s then es else c.store s := by
  rw [List.getD_eq_getElem?_getD, List.getElem?_set, store, List.getD_eq_getElem?_getD]
  split_ifs with h
  · rfl
  · rfl

theorem store_clear (hlt : c.storeOf h < c.stores.length) (s : Nat) :
    (c.clear h).store s = if c.storeOf h = s then [] else c.store s :=
  store_set hlt s

theorem store_insert (hlt : c.storeOf h < c.stores.length) (s : Nat) :
    (c.insert h key t).2.store s =
      if c.storeOf h = s then c.store s ++ [(c.insert h key t).1] else c.store s := by
  have hset : (c.insert h key t).2.store s = _ := store_set hlt s
  rw [hset]
  split_ifs with h'
  · rw [← h']
    rfl
  · rfl

theorem find?_eq_none_iff : c.find? h key = none ↔ key ∉ c.keys (c.storeOf h) := by
  rw [find?, List.find?_eq_none, keys, List.mem_map]
  change (∀ e ∈ c.store (c.storeOf h), _) ↔ _
  constructor
  · rintro hnone ⟨e, he, rfl⟩
    simpa using hnone e he
  · intro hnone e he hkey
    exact hnone ⟨e, he, eq_of_beq hkey⟩

theorem mem_of_find? (he : c.find? h key = some e) : e ∈ c.store (c.storeOf h) ∧ e.key = key := by
  have hmem : e ∈ c.entries h := List.mem_of_find?_eq_some he
  have hkey := List.find?_some he
  exact ⟨hmem, eq_of_beq hkey⟩

structure WellFormed (c : Caches) : Prop where
  allocated : ∀ h, c.storeOf h < c.stores.length
  nodup : ∀ s, (c.keys s).Nodup
  compiled_eq : ∀ s, ∀ e ∈ c.store s, compiled e.key = .ok e.template
  serial_lt : ∀ s, ∀ e ∈ c.store s, e.serial < c.nextSerial

theorem store_initial (s : Nat) : initial.store s = [] := by
  cases s with
  | zero => rfl
  | succ s => rfl

theorem wellFormed_initial : initial.WellFormed where
  allocated h := by
    cases h with
    | zero => exact Nat.one_pos
    | succ h => exact Nat.one_pos
  nodup s := by
    rw [keys, store_initial]
    exact List.nodup_nil
  compiled_eq s e he := by
    rw [store_initial] at he
    cases he
  serial_lt s e he := by
    rw [store_initial] at he
    cases he

/-- A handle that is made stands for a store that exists. -/
theorem WellFormed.create (hwell : c.WellFormed) : c.create.WellFormed where
  allocated h := by
    have hlt := hwell.allocated h
    have hlength : c.create.stores.length = c.stores.length + 1 := List.length_append
    rw [storeOf_create]
    split_ifs <;> omega
  nodup s := by
    rw [keys, store_create]
    exact hwell.nodup s
  compiled_eq s := by
    rw [store_create]
    exact hwell.compiled_eq s
  serial_lt s := by
    rw [store_create]
    exact hwell.serial_lt s

theorem WellFormed.share (hwell : c.WellFormed) (h' : Nat) : (c.share h').WellFormed where
  allocated h := by
    rw [storeOf_share]
    split_ifs
    · exact hwell.allocated h'
    · exact hwell.allocated h
  nodup := hwell.nodup
  compiled_eq := hwell.compiled_eq
  serial_lt := hwell.serial_lt

theorem WellFormed.clear (hwell : c.WellFormed) (h : Nat) : (c.clear h).WellFormed := by
  have hlt := hwell.allocated h
  have hsub : ∀ s, (c.clear h).store s <+: c.store s := by
    intro s
    rw [store_clear hlt]
    split_ifs
    · exact List.nil_prefix
    · exact List.prefix_rfl
  constructor
  case allocated =>
    intro h'
    have hlength : (c.clear h).stores.length = c.stores.length := List.length_set
    rw [hlength]
    exact hwell.allocated h'
  case nodup =>
    intro s
    exact (hwell.nodup s).sublist ((hsub s).sublist.map _)
  case compiled_eq =>
    intro s e he
    exact hwell.compiled_eq s e ((hsub s).subset he)
  case serial_lt =>
    intro s e he
    exact hwell.serial_lt s e ((hsub s).subset he)

/-- A new entry has a key of its own, and a serial number that no other had. -/
theorem WellFormed.insert (hwell : c.WellFormed) (hfind : c.find? h key = none)
    (ht : compiled key = .ok t) : (c.insert h key t).2.WellFormed := by
  have hlt := hwell.allocated h
  have hmem : ∀ s, ∀ e ∈ (c.insert h key t).2.store s,
      e ∈ c.store s ∨ e = (c.insert h key t).1 := by
    intro s e he
    rw [store_insert hlt] at he
    split_ifs at he
    · simpa using he
    · exact .inl he
  constructor
  case allocated =>
    intro h'
    have hlength : (c.insert h key t).2.stores.length = c.stores.length := List.length_set
    rw [hlength]
    exact hwell.allocated h'
  case nodup =>
    intro s
    rw [keys, store_insert hlt]
    split_ifs with hs
    -- The key was looked up in vain, so it is new to the store.
    · rw [List.map_append, List.map_singleton, ← List.concat_eq_append]
      apply (hwell.nodup s).concat
      rw [← hs]
      exact find?_eq_none_iff.mp hfind
    · exact hwell.nodup s
  case compiled_eq =>
    intro s e he
    rcases hmem s e he with he | rfl
    · exact hwell.compiled_eq s e he
    · exact ht
  case serial_lt =>
    intro s e he
    rcases hmem s e he with he | rfl
    · exact Nat.lt_succ_of_lt (hwell.serial_lt s e he)
    · exact Nat.lt_succ_self c.nextSerial

/-- Every call leaves well-formed caches. -/
theorem WellFormed.effect (hwell : c.WellFormed) (heffect : Effect c call c') :
    c'.WellFormed := by
  cases heffect with
  | create => exact hwell.create
  | share h => exact hwell.share h
  | clear h => exact hwell.clear h
  | hit hhandle hkey hfind => exact hwell
  | failed hhandle hkey he => exact hwell
  | inserted hhandle hkey hfind ht => exact hwell.insert hfind ht

theorem after_append_singleton (c : Caches) (calls : List Call) (call : Call) :
    c.after (calls ++ [call]) = ((c.after calls).call call).value.2 := by
  simp [after]

theorem WellFormed.after (hwell : c.WellFormed) (calls : List Call) :
    (c.after calls).WellFormed := by
  induction calls using List.reverseRecOn with
  | nil => exact hwell
  | append_singleton calls call ih =>
      rw [after_append_singleton]
      exact ih.effect (effect_call _ call)

/-! ## One call and one store -/

/-- What one call does to one store: the entries that stay, and those that it adds. -/
structure StoreEffect (c : Caches) (call : Call) (s : Nat) (c' : Caches)
    (added : List CacheEntry) : Prop where
  store_eq : c'.store s = (if call.clears c s then [] else c.store s) ++ added
  requested : ∀ e ∈ added, e.key ∈ call.requests c s
  answered : ∀ key ∈ call.requests c s, key ∈ c'.keys s
  serial_le : ∀ e ∈ added, c.nextSerial ≤ e.serial

theorem StoreEffect.of_kept (hstore : c'.store s = if call.clears c s then [] else c.store s)
    (hanswered : ∀ key ∈ call.requests c s, key ∈ c'.keys s) : StoreEffect c call s c' [] where
  store_eq := by rw [hstore, List.append_nil]
  requested := List.forall_mem_nil _
  answered := hanswered
  serial_le := List.forall_mem_nil _

theorem StoreEffect.of_unasked (hkey : call.key? = none)
    (hstore : c'.store s = if call.clears c s then [] else c.store s) :
    StoreEffect c call s c' [] := by
  apply StoreEffect.of_kept hstore
  rw [Call.requests_of_key? hkey]
  exact List.forall_mem_nil _

theorem store_of_asked (hkey : call.key? = some key) (hstore : c'.store s = c.store s) :
    c'.store s = if call.clears c s then [] else c.store s := by
  rw [Call.clears_of_key? hkey, hstore]
  rfl

/-- Every call adds entries to a store, or none, and otherwise keeps or clears it. -/
theorem exists_storeEffect (hwell : c.WellFormed) (heffect : Effect c call c') (s : Nat) :
    ∃ added, StoreEffect c call s c' added := by
  cases heffect with
  | create => exact ⟨[], .of_unasked rfl (store_create c s)⟩
  | share h => exact ⟨[], .of_unasked rfl rfl⟩
  | clear h =>
      refine ⟨[], .of_unasked rfl ?_⟩
      rw [store_clear (hwell.allocated h)]
      simp [Call.clears, Call.isClear, Call.worksOn, Call.handle?]
  | @hit call h key e hhandle hkey hfind =>
      refine ⟨[], .of_kept (store_of_asked hkey rfl) ?_⟩
      intro key' hrequest
      rcases (Call.mem_requests_iff_of_asked hhandle hkey).mp hrequest with ⟨rfl, rfl, -⟩
      exact List.mem_map.mpr ⟨e, mem_of_find? hfind⟩
  | @failed call h key e hhandle hkey he =>
      refine ⟨[], .of_kept (store_of_asked hkey rfl) ?_⟩
      intro key' hrequest
      rcases (Call.mem_requests_iff_of_asked hhandle hkey).mp hrequest with ⟨rfl, -, hok⟩
      rw [he] at hok
      cases hok
  | @inserted call h key t hhandle hkey hfind ht =>
      have hstore : (c.insert h key t).2.store s = _ := store_insert (hwell.allocated h) s
      have hrequests (key' : CacheKey) : key' ∈ call.requests c s ↔ _ :=
        Call.mem_requests_iff_of_asked hhandle hkey
      -- The template is stored in the store of the handle alone.
      by_cases hs : c.storeOf h = s
      case neg =>
        rw [if_neg hs] at hstore
        refine ⟨[], .of_kept (store_of_asked hkey hstore) ?_⟩
        intro key' hrequest
        exact absurd ((hrequests key').mp hrequest).2.1 hs
      case pos =>
        rw [if_pos hs] at hstore
        refine ⟨[(c.insert h key t).1], ?_, ?_, ?_, ?_⟩
        · rw [hstore, Call.clears_of_key? hkey]
          rfl
        · intro e he
          cases List.mem_singleton.mp he
          exact (hrequests key).mpr ⟨rfl, hs, by rw [ht]; rfl⟩
        · intro key' hrequest
          rw [((hrequests key').mp hrequest).1, keys, hstore]
          simp [insert]
        · intro e he
          cases List.mem_singleton.mp he
          exact Nat.le_refl c.nextSerial

/-- A call that works on other stores leaves this one alone. -/
theorem StoreEffect.store_eq_of_not_worksOn {added : List CacheEntry}
    (heffect : StoreEffect c call s c' added) (hworks : call.worksOn c s = false) :
    c'.store s = c.store s := by
  have hadded : added = [] := by
    rw [List.eq_nil_iff_forall_not_mem]
    intro e he
    have hrequest := (Call.mem_requests_iff.mp (heffect.requested e he)).1
    rw [hworks] at hrequest
    cases hrequest
  rw [heffect.store_eq, hadded, Call.clears, hworks, Bool.and_false, List.append_nil]
  rfl

/-- The keys of a store are those it keeps and those it is asked for. -/
theorem StoreEffect.mem_keys_iff {added : List CacheEntry}
    (heffect : StoreEffect c call s c' added) :
    key ∈ c'.keys s ↔
      (call.clears c s = false ∧ key ∈ c.keys s) ∨ key ∈ call.requests c s := by
  constructor
  · intro hkey
    rcases List.mem_map.mp hkey with ⟨e, he, rfl⟩
    rw [heffect.store_eq, List.mem_append] at he
    rcases he with he | he
    · split_ifs at he with hclears
      · cases he
      · exact .inl ⟨eq_false_of_ne_true hclears, List.mem_map_of_mem he⟩
    · exact .inr (heffect.requested e he)
  · rintro (⟨hclears, hkey⟩ | hrequest)
    · rw [keys, heffect.store_eq, hclears, List.map_append]
      exact List.mem_append_left _ hkey
    · exact heffect.answered key hrequest

/-! ## Runs -/

/-- Calls, each with the caches at which it is made. -/
def history (c : Caches) : List Call → List (Caches × Call)
  | [] => []
  | call :: calls => (c, call) :: history (c.call call).value.2 calls

theorem history_append_singleton (c : Caches) (calls : List Call) (call : Call) :
    c.history (calls ++ [call]) = c.history calls ++ [(c.after calls, call)] := by
  induction calls generalizing c with
  | nil => rfl
  | cons call' calls ih =>
      rw [List.cons_append, history, ih]
      rfl

/-- The keys that a store has been asked for since it was last cleared, if they compile. -/
def requestedSince (c : Caches) (s : Nat) (calls : List Call) : List CacheKey :=
  ((c.history calls).rtakeWhile fun made => !made.2.clears made.1 s).flatMap fun made =>
    made.2.requests made.1 s

/-- The keys of a store are those it has been asked for. -/
theorem mem_keys_after (hwell : c.WellFormed) (hempty : c.store s = []) (calls : List Call) :
    key ∈ (c.after calls).keys s ↔ key ∈ c.requestedSince s calls := by
  -- The last call either clears the store, or adds what it asks for to what was asked for before.
  induction calls using List.reverseRecOn with
  | nil => simp [after, keys, hempty, requestedSince, history]
  | append_singleton calls call ih =>
      obtain ⟨added, heffect⟩ := exists_storeEffect (hwell.after calls) (effect_call _ call) s
      rw [after_append_singleton, heffect.mem_keys_iff, ih, requestedSince, requestedSince,
        history_append_singleton, List.rtakeWhile_concat]
      cases hclears : call.clears (c.after calls) s with
      | true => simp [Call.requests_of_clears hclears]
      | false => simp

/-- Serial numbers go up. -/
theorem Effect.nextSerial_le (heffect : Effect c call c') : c.nextSerial ≤ c'.nextSerial := by
  cases heffect with
  | create | share | clear | hit | failed => exact Nat.le_refl c.nextSerial
  | inserted => exact Nat.le_succ c.nextSerial

theorem nextSerial_le_after (c : Caches) (calls : List Call) :
    c.nextSerial ≤ (c.after calls).nextSerial := by
  induction calls using List.reverseRecOn with
  | nil => exact Nat.le_refl c.nextSerial
  | append_singleton calls call ih =>
      rw [after_append_singleton]
      exact ih.trans (effect_call _ call).nextSerial_le

def clearedIn (c : Caches) (s : Nat) (calls : List Call) : Bool :=
  (c.history calls).any fun made => made.2.clears made.1 s

theorem clearedIn_append_singleton (c : Caches) (s : Nat) (calls : List Call) (call : Call) :
    c.clearedIn s (calls ++ [call]) = (c.clearedIn s calls || call.clears (c.after calls) s) := by
  simp [clearedIn, history_append_singleton]

/-- A store keeps an entry until it is cleared. -/
theorem mem_store_after (hwell : c.WellFormed) (he : e ∈ c.store s) {calls : List Call}
    (hkept : c.clearedIn s calls = false) : e ∈ (c.after calls).store s := by
  -- What a call adds comes behind the entries that it keeps.
  induction calls using List.reverseRecOn with
  | nil => exact he
  | append_singleton calls call ih =>
      obtain ⟨added, heffect⟩ := exists_storeEffect (hwell.after calls) (effect_call _ call) s
      rw [clearedIn_append_singleton, Bool.or_eq_false_iff] at hkept
      rw [after_append_singleton, heffect.store_eq, hkept.2]
      exact List.mem_append_left added (ih hkept.1)

/-- Once a store has been cleared, its entries are later ones. -/
theorem nextSerial_le_of_mem (hwell : c.WellFormed) {calls : List Call}
    (hcleared : c.clearedIn s calls = true) :
    ∀ e ∈ (c.after calls).store s, c.nextSerial ≤ e.serial := by
  -- A call that clears leaves no entry, and the others only add entries with later serial numbers.
  induction calls using List.reverseRecOn with
  | nil => cases hcleared
  | append_singleton calls call ih =>
      intro e he
      obtain ⟨added, heffect⟩ := exists_storeEffect (hwell.after calls) (effect_call _ call) s
      rw [clearedIn_append_singleton, Bool.or_eq_true] at hcleared
      rw [after_append_singleton, heffect.store_eq, List.mem_append] at he
      rcases he with he | he
      · split_ifs at he with hclears
        · cases he
        · exact ih (hcleared.resolve_right hclears) e he
      · exact (nextSerial_le_after c calls).trans (heffect.serial_le e he)

/-- Two entries of a store with one key, one there before some calls and one after, are the same
exactly if no call cleared the store. -/
theorem serial_eq_iff {e' : CacheEntry} {calls : List Call} (hwell : c.WellFormed)
    (he : e ∈ c.store s) (he' : e' ∈ (c.after calls).store s) (hkey : e.key = e'.key) :
    e.serial = e'.serial ↔ c.clearedIn s calls = false := by
  constructor
  · intro hserial
    apply eq_false_of_ne_true
    intro hcleared
    have hlater := nextSerial_le_of_mem hwell hcleared e' he'
    have hbefore := hwell.serial_lt s e he
    omega
  · intro hkept
    have hthere := mem_store_after hwell he hkept
    have hsame : e = e' :=
      List.inj_on_of_nodup_map ((hwell.after calls).nodup s) hthere he' hkey
    rw [hsame]

/-! ## Replies -/

/-- What is stored under a key is what it compiles to. -/
theorem get_template (hwell : c.WellFormed) (h : Nat) (text : Text) (o : CompileOptions) :
    (c.get h text o).value.1.map (·.template) = compiled (text, o) := by
  rcases c.get_cases h text o with ⟨e, hfind, hget⟩ | ⟨e, he, hget⟩ | ⟨t, _, ht, hget⟩
  · obtain ⟨hmem, hkey⟩ := mem_of_find? hfind
    rw [hget, ← hkey, hwell.compiled_eq _ e hmem]
    rfl
  · rw [hget, he]
    rfl
  · rw [hget, ht]
    rfl

/-- A template that is given is stored. -/
theorem mem_of_get (hwell : c.WellFormed) {text : Text} {o : CompileOptions}
    (he : (c.get h text o).value.1 = .ok e) :
    e ∈ (c.get h text o).value.2.store (c.storeOf h) ∧ e.key = (text, o) := by
  rcases c.get_cases h text o with ⟨e', hfind, hget⟩ | ⟨e', _, hget⟩ | ⟨t, _, _, hget⟩
  · rw [hget] at he ⊢
    cases he
    exact mem_of_find? hfind
  · rw [hget] at he
    cases he
  · rw [hget] at he ⊢
    cases he
    rw [store_insert (hwell.allocated h), if_pos rfl]
    exact ⟨List.mem_append_right _ (List.mem_singleton_self _), rfl⟩

/-- What a store gives twice for one key is the same exactly if no call between cleared it. -/
theorem serial_eq_iff_of_get {h' : Nat} {text : Text} {o : CompileOptions} {between : List Call}
    {e' : CacheEntry} (hwell : c.WellFormed) (he : (c.get h text o).value.1 = .ok e)
    (hstore : ((c.get h text o).value.2.after between).storeOf h' = c.storeOf h)
    (he' : (((c.get h text o).value.2.after between).get h' text o).value.1 = .ok e') :
    e.serial = e'.serial ↔
      (c.get h text o).value.2.clearedIn (c.storeOf h) between = false := by
  have hwell' : (c.get h text o).value.2.WellFormed :=
    hwell.effect (effect_call c (.get h text o))
  obtain ⟨hmem, hkey⟩ := mem_of_get hwell he
  obtain ⟨hmem', hkey'⟩ := mem_of_get (hwell'.after between) he'
  -- The second request is a call like those between, and clears nothing.
  have hlast : e' ∈ ((c.get h text o).value.2.after (between ++ [.get h' text o])).store
      (c.storeOf h) := by
    rw [after_append_singleton, ← hstore]
    exact hmem'
  rw [serial_eq_iff hwell' hmem hlast (hkey.trans hkey'.symm), clearedIn_append_singleton,
    Call.clears_of_key? rfl, Bool.or_false]

/-- A failure changes nothing. -/
theorem get_of_error {text : Text} {o : CompileOptions} {e : TemplateError}
    (he : (c.get h text o).value.1 = .error e) : (c.get h text o).value.2 = c := by
  rcases c.get_cases h text o with ⟨e', _, hget⟩ | ⟨e', _, hget⟩ | ⟨t, _, _, hget⟩
  · rw [hget]
  · rw [hget]
  · rw [hget] at he
    cases he

def Reply.error? : Reply → Option TemplateError
  | .entry (.error e) => some e
  | .matched (.error e) => some e
  | _ => none

theorem call_of_error {e : TemplateError} (he : (c.call call).value.1.error? = some e) :
    (c.call call).value.2 = c := by
  cases call with
  | create | share h | clear h => cases he
  | get h text o =>
      cases hget : (c.get h text o).value.1 with
      | error e' => exact get_of_error hget
      | ok entry => simp [Caches.call, Reply.error?, hget] at he
  | matchPath text path =>
      cases hget : (c.get shared text {}).value.1 with
      | error e' =>
          rw [Caches.call, Logged.value_bind, matchPath_eq]
          exact get_of_error hget
      | ok entry => simp [Caches.call, matchPath_eq, Reply.error?, hget, Except.map] at he

theorem size_after (hwell : c.WellFormed) (hempty : c.store s = []) {calls : List Call}
    (hs : (c.after calls).storeOf h = s) :
    (c.after calls).size h = (c.requestedSince s calls).dedup.length := by
  -- Keys do not repeat, so they are counted as the different ones among those asked for.
  have hperm : ((c.after calls).keys s).Perm (c.requestedSince s calls).dedup := by
    apply (List.perm_ext_iff_of_nodup ((hwell.after calls).nodup s) (List.nodup_dedup _)).mpr
    intro key
    rw [List.mem_dedup, mem_keys_after hwell hempty]
  calc (c.after calls).size h
      = ((c.after calls).keys ((c.after calls).storeOf h)).length := (List.length_map _).symm
    _ = ((c.after calls).keys s).length := by rw [hs]
    _ = (c.requestedSince s calls).dedup.length := hperm.length_eq

/-! ## Transparency -/

/-- What the caches after some calls do.  Handles share entries if they stand for one store. -/
structure Transparent (calls : List Call) (c : Caches) : Prop where
  /-- What is given is what compiling gives, be it a template or an error. -/
  get_template : ∀ h text o,
    (c.get h text o).value.1.map (·.template) = (Template.compileWith text o).value
  /-- What a store gives twice for one key is one object exactly if it was not cleared between. -/
  same_iff : ∀ h h' text o between e e',
    (c.get h text o).value.1 = .ok e →
    (((c.get h text o).value.2.after between).get h' text o).value.1 = .ok e' →
    ((c.get h text o).value.2.after between).storeOf h' = c.storeOf h →
    (e.serial = e'.serial ↔ (c.get h text o).value.2.clearedIn (c.storeOf h) between = false)
  /-- A store counts the different keys it was successfully asked for since it was cleared. -/
  size_eq : ∀ h, c.size h = (initial.requestedSince (c.storeOf h) calls).dedup.length
  /-- A call that fails changes nothing. -/
  unchanged : ∀ call e, (c.call call).value.1.error? = some e → (c.call call).value.2 = c
  /-- A call that works on another store leaves the entries of a handle alone. -/
  apart : ∀ h < c.handles.length, ∀ call, call.worksOn c (c.storeOf h) = false →
    (c.call call).value.2.entries h = c.entries h
  /-- Matching a path is matching it, less one leading slash, against what compiling gives. -/
  matchPath_eq : ∀ text path, (c.matchPath text path).value.1 =
    (Template.compileWith text {}).value.map fun t =>
      (t.matcher.run (path.dropLeading '/')).value.1
  /-- A handle keeps its store, a shared one has that of the other, and a created one its own. -/
  storeOf_eq : ∀ h < c.handles.length, ∀ call, (c.call call).value.2.storeOf h = c.storeOf h
  storeOf_share : ∀ h, (c.share h).storeOf c.handles.length = c.storeOf h
  storeOf_create : ∀ h, c.create.storeOf c.handles.length ≠ c.storeOf h

/-- Whatever the calls, caches show in nothing but the identity of templates. -/
theorem transparent (calls : List Call) : Transparent calls (initial.after calls) := by
  have hwell : (initial.after calls).WellFormed := wellFormed_initial.after calls
  constructor
  case get_template => exact get_template hwell
  case same_iff =>
    intro h h' text o between e e' he he' hstore
    exact serial_eq_iff_of_get hwell he hstore he'
  case size_eq =>
    intro h
    exact size_after wellFormed_initial (store_initial _) rfl
  case unchanged =>
    intro call e he
    exact call_of_error he
  case apart =>
    intro h hlt call hworks
    have heffect := effect_call (initial.after calls) call
    obtain ⟨added, hstore⟩ := exists_storeEffect hwell heffect ((initial.after calls).storeOf h)
    rw [entries, heffect.storeOf_eq hlt]
    exact hstore.store_eq_of_not_worksOn hworks
  case matchPath_eq =>
    intro text path
    have htemplate : _ = (Template.compileWith text {}).value := get_template hwell shared text {}
    rw [Caches.matchPath_eq, ← htemplate]
    cases ((initial.after calls).get shared text {}).value.1 with
    | error e => rfl
    | ok e => rfl
  case storeOf_eq =>
    intro h hlt call
    exact (effect_call _ call).storeOf_eq hlt
  case storeOf_share =>
    intro h
    rw [Caches.storeOf_share, if_pos rfl]
  case storeOf_create =>
    intro h
    rw [Caches.storeOf_create, if_pos rfl]
    exact (Nat.ne_of_lt (hwell.allocated h)).symm

/-- A shared handle gives the same object as long as no one clears the store. -/
example :
    let t := "a/{b}".toList
    let serial calls := ((initial.after calls).get 0 t {}).value.1.toOption.map (·.serial)
    serial [.share 0, .get 1 t {}] = some 0 ∧
      serial [.share 0, .get 1 t {}, .clear 1] = some 1 := by
  decide +kernel

end PathTemplate.Caches
