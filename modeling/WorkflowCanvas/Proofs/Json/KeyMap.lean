import Mathlib.Order.Defs.LinearOrder
import Mathlib.Data.String.Basic
import Mathlib.Data.List.Nodup
import Mathlib.Data.List.Induction
import WorkflowCanvas.KeyMap

/-! Maps kept in key order. Entries given in any order, but with each key once, make a map with the
same values, and entries that are in order already make the map that they are. Of maps that are laid
over each other the last one with a key counts. -/
namespace WorkflowCanvas.KeyMap
variable {α : Type} {m added : KeyMap α} {key other : String} {value : α}

theorem mem_keys_insert :
    other ∈ (m.insert key value).map (·.1) ↔ other = key ∨ other ∈ m.map (·.1) := by
  induction m with
  | nil => simp [insert]
  | cons entry rest ih =>
    obtain ⟨k, v⟩ := entry
    unfold insert
    split
    · simp
    · split
      · next h => simp [h]
      · simp only [List.map_cons, List.mem_cons, ih]
        tauto

theorem mem_of_mem_insert {entry : String × α} (h : entry ∈ m.insert key value) :
    entry = (key, value) ∨ entry ∈ m := by
  induction m with
  | nil => exact .inl (List.mem_singleton.mp h)
  | cons first rest ih =>
    obtain ⟨k, v⟩ := first
    unfold insert at h
    split at h
    · simpa using h
    · split at h
      · obtain h | h := List.mem_cons.mp h
        · exact .inl h
        · exact .inr (List.mem_cons_of_mem _ h)
      · obtain rfl | h := List.mem_cons.mp h
        · exact .inr List.mem_cons_self
        · exact (ih h).imp_right (List.mem_cons_of_mem _)

theorem sorted_cons {k : String} {v : α} :
    Sorted ((k, v) :: m) ↔ (∀ other ∈ m.map (·.1), k < other) ∧ Sorted m := by
  simp [Sorted]

theorem Sorted.insert (hm : m.Sorted) (key : String) (value : α) : (m.insert key value).Sorted := by
  induction m with
  | nil => simp [KeyMap.insert, Sorted]
  | cons entry rest ih =>
    obtain ⟨k, v⟩ := entry
    obtain ⟨hk, hrest⟩ := sorted_cons.mp hm
    unfold KeyMap.insert
    split
    · next hlt =>
      refine sorted_cons.mpr ⟨fun other hother => ?_, hm⟩
      obtain rfl | hother := List.mem_cons.mp hother
      · exact hlt
      · exact hlt.trans (hk other hother)
    · next hnlt =>
      split
      · next heq => exact heq ▸ sorted_cons.mpr ⟨hk, hrest⟩
      · next hne =>
        refine sorted_cons.mpr ⟨fun other hother => ?_, ih hrest⟩
        obtain rfl | hother := mem_keys_insert.mp hother
        · exact lt_of_le_of_ne (not_lt.mp hnlt) (Ne.symm hne)
        · exact hk other hother

theorem mem_of_mem_overlay {entry : String × α} (h : entry ∈ m.overlay added) :
    entry ∈ added ∨ entry ∈ m := by
  induction added generalizing m with
  | nil => exact .inr h
  | cons first added ih =>
    obtain h | h := ih h
    · exact .inl (List.mem_cons_of_mem _ h)
    · obtain rfl | h := mem_of_mem_insert h
      · exact .inl List.mem_cons_self
      · exact .inr h

/-- What is found under a key that no two share is what has the key. -/
theorem find?_key_eq_some_iff {β : Type} {key : β → String} {items : List β} {k : String} {x : β}
    (h : (items.map key).Nodup) : items.find? (key · == k) = some x ↔ x ∈ items ∧ key x = k := by
  constructor
  · intro hfind
    exact ⟨List.mem_of_find?_eq_some hfind, by simpa using List.find?_some hfind⟩
  · rintro ⟨hx, rfl⟩
    have hsome : (items.find? (key · == key x)).isSome = true := by simpa using ⟨x, hx, rfl⟩
    obtain ⟨y, hy⟩ := Option.isSome_iff_exists.mp hsome
    have hsame : key y = key x := by simpa using List.find?_some hy
    rw [hy, List.inj_on_of_nodup_map h (List.mem_of_find?_eq_some hy) hx hsame]

/-- A map holds nothing but entries that it is made of. -/
theorem mem_of_mem_ofEntries {entries : List (String × α)} {entry : String × α}
    (h : entry ∈ ofEntries entries) : entry ∈ entries :=
  (mem_of_mem_overlay h).resolve_right List.not_mem_nil

theorem mem_of_get? (h : m.get? key = some value) : (key, value) ∈ m := by
  induction m with
  | nil => cases h
  | cons first rest ih =>
    obtain ⟨k, v⟩ := first
    rw [get?_cons] at h
    split at h
    · next hkey =>
      obtain rfl := Option.some.inj h
      exact hkey ▸ List.mem_cons_self
    · exact List.mem_cons_of_mem _ (ih h)

theorem Sorted.overlay (hm : m.Sorted) : (m.overlay added).Sorted := by
  induction added generalizing m with
  | nil => exact hm
  | cons entry added ih => exact ih (hm.insert entry.1 entry.2)

theorem sorted_ofEntries (entries : List (String × α)) : (ofEntries entries).Sorted :=
  Sorted.overlay List.Pairwise.nil

theorem Sorted.nodup (hm : m.Sorted) : (m.map (·.1)).Nodup := by
  rw [List.nodup_iff_pairwise_ne, List.pairwise_map]
  exact hm.imp fun h => ne_of_lt h

/-- An entry behind all others is put at the end. -/
theorem insert_of_forall_lt (h : ∀ other ∈ m.map (·.1), other < key) :
    m.insert key value = m ++ [(key, value)] := by
  induction m with
  | nil => rfl
  | cons entry rest ih =>
    obtain ⟨k, v⟩ := entry
    have hk : k < key := h k (by simp)
    rw [insert, if_neg hk.not_gt, if_neg hk.ne',
      ih fun other hother => h other (List.mem_cons_of_mem _ hother)]
    rfl

theorem overlay_of_sorted (h : Sorted (m ++ added)) : m.overlay added = m ++ added := by
  induction added generalizing m with
  | nil => simp [overlay]
  | cons entry added ih =>
    have hlast : ∀ other ∈ m.map (·.1), other < entry.1 := by
      intro other hother
      obtain ⟨e, he, rfl⟩ := List.mem_map.mp hother
      exact (List.pairwise_append.mp h).2.2 e he entry (by simp)
    show overlay (m.insert entry.1 entry.2) added = _
    rw [insert_of_forall_lt hlast, ih (by simpa using h)]
    simp

/-- Entries in key order are the map that is made of them. -/
theorem ofEntries_of_sorted (hm : m.Sorted) : ofEntries m = m := overlay_of_sorted (m := []) hm

theorem get?_eq_none_iff : m.get? key = none ↔ key ∉ m.map (·.1) := by
  induction m with
  | nil => simp
  | cons entry rest ih =>
    obtain ⟨k, v⟩ := entry
    rw [get?_cons, List.map_cons, List.mem_cons, not_or, ← ih]
    by_cases hkey : key = k
    · simp [hkey]
    · simp [hkey]

theorem mem_keys_iff : key ∈ m.keys ↔ (m.get? key).isSome = true := by
  rw [Option.isSome_iff_ne_none, ne_eq, get?_eq_none_iff, not_not, keys]

theorem get?_eq_find? (m : KeyMap α) (key : String) :
    m.get? key = (m.find? (·.1 == key)).map (·.2) := by
  induction m with
  | nil => rfl
  | cons entry rest ih =>
    obtain ⟨k, v⟩ := entry
    rw [get?_cons, ih]
    by_cases hkey : key = k
    · simp [hkey]
    · rw [if_neg hkey, List.find?_cons_of_neg (by simpa using Ne.symm hkey)]

theorem get?_of_mem {entry : String × α} (h : (m.map (·.1)).Nodup) (hentry : entry ∈ m) :
    m.get? entry.1 = some entry.2 := by
  rw [get?_eq_find?, (find?_key_eq_some_iff h).mpr ⟨hentry, rfl⟩, Option.map_some]

theorem find?_keys (m : KeyMap α) (key : String) :
    m.keys.find? (· == key) = (m.get? key).map fun _ => key := by
  have hentry : m.keys.find? (· == key) = (m.find? (·.1 == key)).map (·.1) := List.find?_map ..
  rw [hentry, get?_eq_find?]
  cases hfind : m.find? (·.1 == key) with
  | none => rfl
  | some entry =>
    have hkey : entry.1 = key := by simpa using List.find?_some hfind
    exact congrArg some hkey

/-- Put a value under a key, if there is one. -/
def put (m : KeyMap α) (key : String) : Option α → KeyMap α
  | some value => m.insert key value
  | none => m

theorem get?_put {value? : Option α} : (m.put key value?).get? other =
    if other = key then value?.or (m.get? other) else m.get? other := by
  cases value? with
  | none => simp [put]
  | some value => simp [put, get?_insert]

theorem Sorted.put (hm : m.Sorted) (key : String) (value? : Option α) :
    (m.put key value?).Sorted := by
  cases value? with
  | none => exact hm
  | some value => exact hm.insert key value

theorem Sorted.foldl_put {β : Type} (hm : m.Sorted) (key : β → String) (value? : β → Option α)
    (items : List β) : Sorted (items.foldl (fun m x => m.put (key x) (value? x)) m) := by
  induction items generalizing m with
  | nil => exact hm
  | cons x items ih => exact ih (hm.put (key x) (value? x))

/-- What stands under a key after values have been put in for some items, of which those that share a
key give the same value, is the value of the first item with the key. -/
theorem get?_foldl_put {β : Type} (key : β → String) {value? : β → Option α} {items : List β}
    (hsame : ∀ x ∈ items, ∀ y ∈ items, key x = key y → value? x = value? y) (m : KeyMap α)
    (k : String) : (items.foldl (fun m x => m.put (key x) (value? x)) m).get? k =
      ((items.find? (key · == k)).bind value?).or (m.get? k) := by
  induction items generalizing m with
  | nil => rfl
  | cons x items ih =>
    have hrest : ∀ y ∈ items, ∀ z ∈ items, key y = key z → value? y = value? z := fun y hy z hz =>
      hsame y (List.mem_cons_of_mem x hy) z (List.mem_cons_of_mem x hz)
    rw [List.foldl_cons, ih hrest, get?_put]
    by_cases hkey : k = key x
    · subst hkey
      cases hfind : items.find? (key · == key x) with
      | none => simp
      | some y =>
        have hy : key y = key x := by simpa using List.find?_some hfind
        have hvalue : value? x = value? y := hsame x List.mem_cons_self y
          (List.mem_cons_of_mem x (List.mem_of_find?_eq_some hfind)) hy.symm
        cases hx : value? x <;> simp [← hvalue, hx]
    · rw [if_neg hkey, List.find?_cons_of_neg (by simpa using Ne.symm hkey)]

theorem get?_overlay (hadded : (added.map (·.1)).Nodup) :
    (m.overlay added).get? key = (added.get? key).or (m.get? key) := by
  have hsame : ∀ x ∈ added, ∀ y ∈ added, x.1 = y.1 → some x.2 = some y.2 := fun x hx y hy h => by
    rw [List.inj_on_of_nodup_map hadded hx hy h]
  rw [get?_eq_find? added, Option.map_eq_bind]
  exact get?_foldl_put Prod.fst hsame m key

/-- The values of a map are those of the entries it is made of, if no key is given twice. -/
theorem get?_ofEntries {entries : List (String × α)} (h : (entries.map (·.1)).Nodup) :
    (ofEntries entries).get? key = KeyMap.get? entries key := by
  rw [ofEntries, get?_overlay h]
  simp

theorem get?_append : KeyMap.get? (m ++ added) key = (m.get? key).or (added.get? key) := by
  induction m with
  | nil => rfl
  | cons entry rest ih =>
    obtain ⟨k, v⟩ := entry
    rw [List.cons_append, get?_cons, get?_cons, ih]
    split <;> rfl

theorem get?_filter (keep : String → Bool) :
    KeyMap.get? (m.filter (keep ·.1)) key = if keep key then m.get? key else none := by
  induction m with
  | nil => simp
  | cons entry rest ih =>
    obtain ⟨k, v⟩ := entry
    rw [List.filter_cons]
    split
    · next hk =>
      rw [get?_cons, get?_cons, ih]
      by_cases hkey : key = k
      · simp_all
      · simp [hkey]
    · next hk =>
      rw [get?_cons, ih]
      by_cases hkey : key = k
      · simp_all
      · simp [hkey]

/-! ### Maps laid over each other -/

/-- The last entry under a key. -/
theorem get?_reverse_eq_some_iff : KeyMap.get? m.reverse key = some value ↔
    ∃ earlier later, m = earlier ++ (key, value) :: later ∧ key ∉ later.map (·.1) := by
  rw [get?, List.lookup_eq_some_iff]
  constructor
  · rintro ⟨later, earlier, hsplit, hlater⟩
    refine ⟨earlier.reverse, later.reverse, ?_, ?_⟩
    · rw [← List.reverse_reverse m, hsplit]
      simp
    · intro hkey
      obtain ⟨entry, hentry, rfl⟩ := List.mem_map.mp hkey
      simpa using hlater entry (List.mem_reverse.mp hentry)
  · rintro ⟨earlier, later, rfl, hlater⟩
    refine ⟨later.reverse, earlier.reverse, by simp, fun entry hentry => ?_⟩
    rw [bne_iff_ne]
    rintro rfl
    exact hlater (List.mem_map_of_mem (List.mem_reverse.mp hentry))

/-- Of the entries that are laid over a map the last one under a key counts. -/
theorem get?_overlay_reverse :
    (m.overlay added).get? key = (KeyMap.get? added.reverse key).or (m.get? key) := by
  induction added using List.reverseRecOn with
  | nil => rfl
  | append_singleton added entry ih =>
    rw [overlay, List.foldl_concat, ← overlay, get?_insert, List.reverse_concat]
    obtain ⟨k, v⟩ := entry
    rw [get?_cons, ih]
    split <;> rfl

theorem get?_foldl_overlay {β : Type} (map : β → KeyMap α) (xs : List β) (key : String) :
    KeyMap.get? (xs.foldl (fun acc x => overlay acc (map x)) []) key =
      xs.reverse.findSome? fun x => KeyMap.get? (map x).reverse key := by
  induction xs using List.reverseRecOn with
  | nil => rfl
  | append_singleton xs x ih =>
    rw [List.foldl_concat, get?_overlay_reverse, ih, List.reverse_concat, List.findSome?_cons]
    cases KeyMap.get? (map x).reverse key <;> rfl

theorem sorted_foldl_overlay {β : Type} (map : β → KeyMap α) (xs : List β) :
    Sorted (xs.foldl (fun acc x => overlay acc (map x)) []) := by
  induction xs using List.reverseRecOn with
  | nil => exact List.Pairwise.nil
  | append_singleton xs x ih => exact List.foldl_concat .. ▸ ih.overlay

/-- Of maps that are laid over each other the last one with a key counts. -/
theorem get?_foldl_overlay_eq_some_iff {β : Type} {map : β → KeyMap α} {xs : List β} :
    KeyMap.get? (xs.foldl (fun acc x => overlay acc (map x)) []) key = some value ↔
      ∃ earlier last later, xs = earlier ++ last :: later ∧
        KeyMap.get? (map last).reverse key = some value ∧
        ∀ x ∈ later, KeyMap.get? (map x).reverse key = none := by
  rw [get?_foldl_overlay, List.findSome?_eq_some_iff]
  constructor
  · rintro ⟨later, last, earlier, hsplit, hlast, hlater⟩
    refine ⟨earlier.reverse, last, later.reverse, ?_, hlast, fun x hx => ?_⟩
    · rw [← List.reverse_reverse xs, hsplit]
      simp
    · exact hlater x (List.mem_reverse.mp hx)
  · rintro ⟨earlier, last, later, rfl, hlast, hlater⟩
    exact ⟨later.reverse, last, earlier.reverse, by simp, hlast,
      fun x hx => hlater x (List.mem_reverse.mp hx)⟩

end WorkflowCanvas.KeyMap
