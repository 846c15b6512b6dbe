/-!
# Maps with text keys

A map from strings, kept as the list of its entries in increasing order of the keys; strings are
compared character by character by code point, which is also the order of their UTF-8 bytes. The
order is part of the type, so two maps with the same look-ups are the same map (`KeyMap.ext_get?`).
-/

namespace ModeLexer

/-- A map from strings to `α`. -/
structure KeyMap (α : Type) where
  entries : List (String × α)
  sorted : entries.Pairwise (·.1 < ·.1)
  deriving DecidableEq, Repr

namespace KeyMap

variable {α : Type}

/-- The map without entries. -/
def empty : KeyMap α := ⟨[], .nil⟩

instance : Inhabited (KeyMap α) := ⟨empty⟩

/-- The keys in increasing order. -/
def keys (m : KeyMap α) : List String := m.entries.map (·.1)

/-- The value of a key. -/
def get? (m : KeyMap α) (key : String) : Option α := m.entries.lookup key

/-- Whether a key has a value. -/
def contains (m : KeyMap α) (key : String) : Bool := (m.get? key).isSome

/-- Puts an entry at its place among sorted entries, over an older one of the same key. -/
def insertEntry (key : String) (value : α) : List (String × α) → List (String × α)
  | [] => [(key, value)]
  | e :: es =>
    if key < e.1 then (key, value) :: e :: es
    else if key = e.1 then (key, value) :: es
    else e :: insertEntry key value es

/-- What is in a list after an entry has been put in was there before, or is the entry. -/
theorem mem_insertEntry {key : String} {value : α} {es : List (String × α)} {x : String × α}
    (h : x ∈ insertEntry key value es) : x = (key, value) ∨ x ∈ es := by
  induction es with
  | nil => simpa [insertEntry] using h
  | cons e es ih =>
    simp only [insertEntry] at h
    split at h
    · simpa using h
    · split at h
      · simp only [List.mem_cons] at h ⊢
        exact h.imp_right .inr
      · simp only [List.mem_cons] at h ⊢
        rcases h with h | h
        · exact .inr (.inl h)
        · exact (ih h).imp_right .inr

/-- An entry is put where its key belongs. -/
theorem sorted_insertEntry (key : String) (value : α) {es : List (String × α)}
    (h : es.Pairwise (·.1 < ·.1)) : (insertEntry key value es).Pairwise (·.1 < ·.1) := by
  induction es with
  | nil => simp [insertEntry]
  | cons e es ih =>
    have ⟨hlt, hes⟩ := List.pairwise_cons.1 h
    simp only [insertEntry]
    split
    · next hk =>
      refine List.pairwise_cons.2 ⟨fun x hx ↦ ?_, h⟩
      rcases List.mem_cons.1 hx with rfl | hx
      · exact hk
      · exact String.lt_trans hk (hlt x hx)
    · next hk =>
      split
      · next heq =>
        exact List.pairwise_cons.2 ⟨fun x hx ↦ heq ▸ hlt x hx, hes⟩
      · next hne =>
        refine List.pairwise_cons.2 ⟨fun x hx ↦ ?_, ih hes⟩
        rcases mem_insertEntry hx with rfl | hx
        · exact Std.lt_of_le_of_ne (String.not_lt.1 hk) (Ne.symm hne)
        · exact hlt x hx

/-- Sets the value of a key. -/
def insert (m : KeyMap α) (key : String) (value : α) : KeyMap α :=
  ⟨insertEntry key value m.entries, sorted_insertEntry key value m.sorted⟩

/-- The map with every value replaced. -/
def map {β : Type} (f : α → β) (m : KeyMap α) : KeyMap β :=
  ⟨m.entries.map fun e ↦ (e.1, f e.2), List.pairwise_map.2 m.sorted⟩

/-- The map of a list of entries; of several entries with one key the last one counts. -/
def ofList (es : List (String × α)) : KeyMap α :=
  es.foldl (fun m e ↦ m.insert e.1 e.2) empty

/-- The number of entries. -/
def size (m : KeyMap α) : Nat := m.entries.length

/-- There are as many keys as entries. -/
theorem length_keys (m : KeyMap α) : m.keys.length = m.size := List.length_map _

/-! ### Look-up -/

@[simp] theorem get?_empty (key : String) : (empty : KeyMap α).get? key = none := rfl

/-- A key is looked up in the first entry first. -/
theorem lookup_cons_eq (key : String) (e : String × α) (es : List (String × α)) :
    (e :: es).lookup key = if key = e.1 then some e.2 else es.lookup key := by
  obtain ⟨k, v⟩ := e
  rw [List.lookup_cons]
  by_cases h : key = k
  · simp [h]
  · simp [beq_false_of_ne h, h]

/-- A key that has been put in has its new value, and all others keep theirs. -/
theorem lookup_insertEntry (key key' : String) (value : α) (es : List (String × α)) :
    (insertEntry key value es).lookup key' =
      if key' = key then some value else es.lookup key' := by
  induction es with
  | nil => simp [insertEntry, lookup_cons_eq]
  | cons e es ih =>
    simp only [insertEntry]
    split
    · simp only [lookup_cons_eq]
    · split
      · next heq =>
        subst heq
        simp only [lookup_cons_eq]
        by_cases h : key' = e.1 <;> simp [h]
      · next hne =>
        simp only [lookup_cons_eq, ih]
        by_cases h : key' = e.1
        · subst h
          simp [Ne.symm hne]
        · simp [h]

/-- A look-up after an insertion finds the inserted value under its key and the old values
elsewhere. -/
theorem get?_insert (m : KeyMap α) (key key' : String) (value : α) :
    (m.insert key value).get? key' = if key' = key then some value else m.get? key' :=
  lookup_insertEntry key key' value m.entries

/-- The values of a map are replaced key by key. -/
theorem get?_map {β : Type} (f : α → β) (m : KeyMap α) (key : String) :
    (m.map f).get? key = (m.get? key).map f := by
  obtain ⟨es, hes⟩ := m
  simp only [get?, map]
  clear hes
  induction es with
  | nil => rfl
  | cons e es ih =>
    rw [List.map_cons, lookup_cons_eq, lookup_cons_eq, ih]
    split <;> rfl

/-- Replacing values leaves the keys. -/
theorem keys_map {β : Type} (f : α → β) (m : KeyMap α) : (m.map f).keys = m.keys := by
  rw [keys, keys, map, List.map_map]
  rfl

/-- Replacing values leaves the number of entries. -/
theorem size_map {β : Type} (f : α → β) (m : KeyMap α) : (m.map f).size = m.size :=
  List.length_map _

/-- The value that an entry holds is found under its key. -/
theorem lookup_eq_some_of_mem {es : List (String × α)} (h : es.Pairwise (·.1 < ·.1))
    {e : String × α} (he : e ∈ es) : es.lookup e.1 = some e.2 := by
  induction es with
  | nil => simp at he
  | cons e' es ih =>
    have ⟨hlt, hes⟩ := List.pairwise_cons.1 h
    rw [lookup_cons_eq]
    rcases List.mem_cons.1 he with rfl | he
    · simp
    · have hne : e.1 ≠ e'.1 := fun heq ↦ String.lt_irrefl _ (heq ▸ hlt e he)
      simp [hne, ih hes he]

/-- What is found is an entry. -/
theorem mem_of_lookup_eq_some {es : List (String × α)} {key : String} {value : α}
    (h : es.lookup key = some value) : (key, value) ∈ es := by
  induction es with
  | nil => simp at h
  | cons e es ih =>
    rw [lookup_cons_eq] at h
    split at h
    · next heq =>
      subst heq
      simp only [Option.some.injEq] at h
      simp [← h]
    · exact List.mem_cons_of_mem _ (ih h)

/-- A key has a value exactly if there is an entry for it. -/
theorem get?_eq_some_iff {m : KeyMap α} {key : String} {value : α} :
    m.get? key = some value ↔ (key, value) ∈ m.entries :=
  ⟨mem_of_lookup_eq_some, lookup_eq_some_of_mem m.sorted⟩

/-- A key is listed exactly if it has a value. -/
theorem mem_keys_iff {m : KeyMap α} {key : String} :
    key ∈ m.keys ↔ ∃ value, m.get? key = some value := by
  simp only [get?_eq_some_iff, keys, List.mem_map]
  constructor
  · rintro ⟨e, he, rfl⟩
    exact ⟨e.2, he⟩
  · rintro ⟨value, h⟩
    exact ⟨_, h, rfl⟩

/-- No key is listed twice. -/
theorem keys_nodup (m : KeyMap α) : m.keys.Nodup := by
  rw [keys, List.Nodup, List.pairwise_map]
  refine m.sorted.imp fun {e f} hlt heq ↦ ?_
  rw [heq] at hlt
  exact String.lt_irrefl f.1 hlt

/-- The number of a key is its place in the list of keys. -/
theorem idxOf?_keys_eq_some_iff {m : KeyMap α} {key : String} {i : Nat} :
    m.keys.idxOf? key = some i ↔ m.keys[i]? = some key := by
  rw [List.idxOf?_eq_some_iff, List.getElem?_eq_some_iff]
  refine ⟨fun ⟨hi, heq, _⟩ ↦ ⟨hi, heq⟩, fun ⟨hi, heq⟩ ↦ ⟨hi, heq, fun j hj hkey ↦ ?_⟩⟩
  -- two places of one key would be one place
  have hlt : j < m.keys.length := Nat.lt_trans hj hi
  exact absurd (hkey.trans heq.symm) (List.pairwise_iff_getElem.1 m.keys_nodup j i hlt hi hj)

/-- An entry with a key that is there already takes the place of the older one. -/
theorem map_fst_insertEntry {key : String} {value : α} {es : List (String × α)}
    (hes : es.Pairwise (·.1 < ·.1)) (h : key ∈ es.map (·.1)) :
    (insertEntry key value es).map (·.1) = es.map (·.1) := by
  induction es with
  | nil => simp at h
  | cons e es ih =>
    have ⟨hlt, hes'⟩ := List.pairwise_cons.1 hes
    have hkey : key = e.1 ∨ ∃ e' ∈ es, e'.1 = key := by simpa using h
    simp only [insertEntry]
    split
    · next hk =>
      -- the key would stand before itself
      rcases hkey with rfl | ⟨e', he', rfl⟩
      · exact absurd hk (String.lt_irrefl _)
      · exact absurd (String.lt_trans hk (hlt e' he')) (String.lt_irrefl _)
    · split
      · next heq => rw [List.map_cons, List.map_cons, heq]
      · next hne =>
        rw [List.map_cons, List.map_cons, ih hes' (List.mem_map.2 (hkey.resolve_left hne))]

/-- A new value for a key leaves the keys as they are. -/
theorem keys_insert_of_mem {m : KeyMap α} {key : String} (h : key ∈ m.keys) (value : α) :
    (m.insert key value).keys = m.keys :=
  map_fst_insertEntry m.sorted h

/-- The last entry of a list is put in last. -/
theorem ofList_concat (es : List (String × α)) (e : String × α) :
    ofList (es ++ [e]) = (ofList es).insert e.1 e.2 := by
  simp [ofList]

/-- Of entries with different keys the map holds all. -/
theorem get?_ofList_eq_some_iff {es : List (String × α)} (h : (es.map (·.1)).Nodup) {key : String}
    {value : α} : (ofList es).get? key = some value ↔ (key, value) ∈ es := by
  -- entries are inserted from the first to the last, so the induction is from the end
  generalize hn : es.length = n
  induction n generalizing es with
  | zero =>
    obtain rfl := List.length_eq_zero_iff.1 hn
    simp [ofList]
  | succ n ih =>
    obtain ⟨es, e, rfl⟩ : ∃ es' e, es = es' ++ [e] :=
      ⟨_, _, (List.dropLast_concat_getLast (List.ne_nil_of_length_eq_add_one hn)).symm⟩
    rw [List.map_append, List.nodup_append] at h
    obtain ⟨hes, -, hne⟩ := h
    rw [ofList_concat, get?_insert, List.mem_append, List.mem_singleton,
      ← ih hes (by simpa using hn)]
    split
    · next heq =>
      subst heq
      have hnone : (ofList es).get? e.1 ≠ some value := fun hget ↦
        hne e.1 (List.mem_map.2 ⟨_, (ih hes (by simpa using hn)).1 hget, rfl⟩) e.1 (by simp) rfl
      simp [hnone, Prod.ext_iff, eq_comm]
    · next hkey => simp [Prod.ext_iff, hkey]

/-- Sorted entries are determined by what can be looked up in them. -/
theorem entries_ext {es fs : List (String × α)} (hes : es.Pairwise (·.1 < ·.1))
    (hfs : fs.Pairwise (·.1 < ·.1)) (h : ∀ e, e ∈ es ↔ e ∈ fs) : es = fs := by
  induction es generalizing fs with
  | nil =>
    cases fs with
    | nil => rfl
    | cons f fs => exact absurd ((h f).2 (List.mem_cons_self ..)) (by simp)
  | cons e es ih =>
    cases fs with
    | nil => exact absurd ((h e).1 (List.mem_cons_self ..)) (by simp)
    | cons f fs =>
      have ⟨hle, hes'⟩ := List.pairwise_cons.1 hes
      have ⟨hlf, hfs'⟩ := List.pairwise_cons.1 hfs
      have hef : e = f := by
        rcases List.mem_cons.1 ((h e).1 (List.mem_cons_self ..)) with he | he
        · exact he
        · rcases List.mem_cons.1 ((h f).2 (List.mem_cons_self ..)) with hf | hf
          · exact hf.symm
          · exact absurd (String.lt_trans (hlf e he) (hle f hf)) (String.lt_irrefl _)
      subst hef
      refine congrArg _ (ih hes' hfs' fun x ↦ ⟨fun hx ↦ ?_, fun hx ↦ ?_⟩)
      · rcases List.mem_cons.1 ((h x).1 (List.mem_cons_of_mem _ hx)) with rfl | hx'
        · exact absurd (hle x hx) (String.lt_irrefl _)
        · exact hx'
      · rcases List.mem_cons.1 ((h x).2 (List.mem_cons_of_mem _ hx)) with rfl | hx'
        · exact absurd (hlf x hx) (String.lt_irrefl _)
        · exact hx'

/-- Maps with the same look-ups are equal. -/
theorem ext_get? {m n : KeyMap α} (h : ∀ key, m.get? key = n.get? key) : m = n := by
  obtain ⟨es, hes⟩ := m
  obtain ⟨fs, hfs⟩ := n
  have : es = fs := by
    refine entries_ext hes hfs fun e ↦ ?_
    have hm := @get?_eq_some_iff α ⟨es, hes⟩ e.1 e.2
    have hn := @get?_eq_some_iff α ⟨fs, hfs⟩ e.1 e.2
    rw [h] at hm
    exact hm.symm.trans hn
  subst this
  rfl

end KeyMap

end ModeLexer
