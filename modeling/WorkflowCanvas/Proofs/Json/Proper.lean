import WorkflowCanvas.Proofs.Float.Finite
import WorkflowCanvas.Proofs.Json.KeyMap
import WorkflowCanvas.Proofs.Json.Reading

/-! JSON values as there are: the keys of an object differ and stand in order, integers have 64 bits and
floats are finite. -/
namespace WorkflowCanvas

/-! ### Values -/

/-- A value with numbers in range in which no object has a key twice. -/
inductive Json.Proper : Json → Prop
  | null : Proper .null
  | bool (b : Bool) : Proper (.bool b)
  | int {i : Int} (hlow : -2 ^ 63 ≤ i) (hhigh : i < 2 ^ 64) : Proper (.num (.int i))
  | float {x : Float} (hx : x.isFinite = true) : Proper (.num (.float x))
  | str (s : String) : Proper (.str s)
  | arr {items : List Json} (hitems : ∀ j ∈ items, j.Proper) : Proper (.arr items)
  | obj {members : List (String × Json)} (hkeys : (members.map (·.1)).Nodup)
    (hmembers : ∀ m ∈ members, m.2.Proper) : Proper (.obj members)

namespace Json
variable {items : List Json} {members : List (String × Json)}

@[simp] theorem proper_null : Json.null.Proper := .null

@[simp] theorem proper_str (s : String) : (Json.str s).Proper := .str s

@[simp] theorem proper_int_iff {i : Int} : (Json.int i).Proper ↔ -2 ^ 63 ≤ i ∧ i < 2 ^ 64 :=
  ⟨by rintro (_ | _ | ⟨hlow, hhigh⟩); exact ⟨hlow, hhigh⟩, fun h => .int h.1 h.2⟩

@[simp] theorem proper_float {x : Float} (hx : x.isFinite = true) : (Json.float x).Proper := by
  rw [Json.float, if_pos hx]
  exact .float hx

@[simp] theorem proper_arr_iff : (Json.arr items).Proper ↔ ∀ j ∈ items, j.Proper :=
  ⟨by rintro ⟨⟩; assumption, .arr⟩

@[simp] theorem proper_obj_iff : (Json.obj members).Proper ↔
    (members.map (·.1)).Nodup ∧ ∀ m ∈ members, m.2.Proper :=
  ⟨by rintro ⟨⟩; exact ⟨‹_›, ‹_›⟩, fun h => .obj h.1 h.2⟩

@[simp] theorem proper_orNull_str (value : Option String) : (orNull (value.map .str)).Proper := by
  cases value with
  | none => exact .null
  | some s => exact .str s

end Json

/-- The members of every object, at every depth, are in key order. -/
inductive Json.Ordered : Json → Prop
  | null : Ordered .null
  | bool (b : Bool) : Ordered (.bool b)
  | num (n : Number) : Ordered (.num n)
  | str (s : String) : Ordered (.str s)
  | arr {items : List Json} (hitems : ∀ j ∈ items, j.Ordered) : Ordered (.arr items)
  | obj {members : List (String × Json)} (hkeys : KeyMap.Sorted members)
    (hmembers : ∀ m ∈ members, m.2.Ordered) : Ordered (.obj members)

namespace Json

theorem sortedItems_eq_self {items : List Json} (h : ∀ j ∈ items, j.sorted = j) :
    sortedItems items = items := by
  induction items with
  | nil => rfl
  | cons j items ih =>
    obtain ⟨hj, hitems⟩ := List.forall_mem_cons.mp h
    rw [sortedItems, hj, ih hitems]

theorem sortedMembers_eq_self {members : List (String × Json)} (h : ∀ m ∈ members, m.2.sorted = m.2) :
    sortedMembers members = members := by
  induction members with
  | nil => rfl
  | cons m members ih =>
    obtain ⟨hm, hmembers⟩ := List.forall_mem_cons.mp h
    rw [sortedMembers, hm, ih hmembers]

/-- A value in key order is left as it is. -/
theorem Ordered.sorted {j : Json} (h : j.Ordered) : j.sorted = j := by
  induction h with
  | arr _ ih => rw [Json.sorted, sortedItems_eq_self ih]
  | obj hkeys _ ih => rw [Json.sorted, sortedMembers_eq_self ih, KeyMap.ofEntries_of_sorted hkeys]
  | _ => rfl

/-- A value as a parser or a program makes it. -/
structure Canonical (j : Json) : Prop where
  proper : j.Proper
  ordered : j.Ordered

theorem canonical_obj_nil : (Json.obj []).Canonical :=
  ⟨by simp, .obj List.Pairwise.nil (List.forall_mem_nil _)⟩

/-- A property of such values that passes to their parts, and that limits their numbers. -/
class Hereditary (H : Json → Prop) : Prop where
  canonical {j : Json} : j.Canonical → H j
  num {n : Number} : H (.num n) → (Json.num n).Proper
  items {items : List Json} : H (.arr items) → ∀ j ∈ items, H j
  members {members : List (String × Json)} : H (.obj members) → ∀ m ∈ members, H m.2

instance : Hereditary Proper where
  canonical h := h.proper
  num h := h
  items := proper_arr_iff.mp
  members h := (proper_obj_iff.mp h).2

instance : Hereditary Canonical where
  canonical h := h
  num h := h.proper
  items h j hj := by
    cases h.ordered with
    | arr hitems => exact ⟨proper_arr_iff.mp h.proper j hj, hitems j hj⟩
  members h m hm := by
    cases h.ordered with
    | obj _ hmembers => exact ⟨(proper_obj_iff.mp h.proper).2 m hm, hmembers m hm⟩

end Json

/-! ### Members under other keys -/

/-- Members that are kept in key order beside those under the known keys. -/
structure KeyMap.Beside (known : List String) (extra : KeyMap Json) (H : Json → Prop := Json.Proper) :
    Prop where
  sorted : extra.Sorted
  unknown : ∀ key ∈ extra.map (·.1), key ∉ known
  values : ∀ m ∈ extra, H m.2

namespace KeyMap
variable {known : List String} {extra front : KeyMap Json} {key : String} {H : Json → Prop}

theorem beside_nil (known : List String) : Beside known [] H :=
  ⟨List.Pairwise.nil, List.forall_mem_nil _, List.forall_mem_nil _⟩

theorem Beside.imp {H' : Json → Prop} (h : extra.Beside known H) (himp : ∀ j, H j → H' j) :
    extra.Beside known H' :=
  ⟨h.sorted, h.unknown, fun m hm => himp m.2 (h.values m hm)⟩

theorem Beside.insert (h : extra.Beside known H) (hkey : key ∉ known) {j : Json} (hj : H j) :
    (extra.insert key j).Beside known H := by
  refine ⟨h.sorted.insert key j, fun k hk => ?_, fun m hm => ?_⟩
  · obtain rfl | hk := mem_keys_insert.mp hk
    · exact hkey
    · exact h.unknown k hk
  · obtain rfl | hm := mem_of_mem_insert hm
    · exact hj
    · exact h.values m hm

/-- What is left of the members of an object. -/
theorem beside_rest {members : List (String × Json)} (hmembers : ∀ m ∈ members, H m.2) :
    Beside known (ofEntries (members.filter (·.1 ∉ known))) H := by
  refine ⟨sorted_ofEntries _, fun key hkey => ?_, fun m hm => ?_⟩
  · obtain ⟨m, hm, rfl⟩ := List.mem_map.mp hkey
    exact of_decide_eq_true (List.mem_filter.mp (mem_of_mem_ofEntries hm)).2
  · exact hmembers m (List.mem_filter.mp (mem_of_mem_ofEntries hm)).1

/-- What is left of the members of an object is kept with its values. -/
theorem kept_of_rest {members : List (String × Json)} (hkeys : (members.map (·.1)).Nodup)
    (hmembers : ∀ m ∈ members, m.2.Proper)
    (hextra : ofEntries (members.filter (·.1 ∉ known)) = extra) :
    extra.Beside known ∧ ∀ key ∉ known, extra.get? key = KeyMap.get? members key := by
  subst hextra
  refine ⟨beside_rest hmembers, fun key hkey => ?_⟩
  have hsub : (members.filter (·.1 ∉ known)).Sublist members := List.filter_sublist
  rw [get?_ofEntries ((hsub.map _).nodup hkeys), get?_filter (fun k => decide (k ∉ known))]
  simp [hkey]

/-- Members that are put behind those under the known keys are what is left when they are read. -/
theorem Beside.rest_append (h : extra.Beside known H) (hfront : ∀ m ∈ front, m.1 ∈ known) :
    ofEntries ((front ++ extra).filter (·.1 ∉ known)) = extra := by
  have hnone : front.filter (·.1 ∉ known) = [] := by simpa using hfront
  have hall : extra.filter (·.1 ∉ known) = extra := by
    rw [List.filter_eq_self]
    intro m hm
    exact decide_eq_true (h.unknown m.1 (List.mem_map_of_mem hm))
  rw [List.filter_append, hnone, hall, List.nil_append, ofEntries_of_sorted h.sorted]

theorem Beside.nodup_append (h : extra.Beside known H) (hkeys : (front.map (·.1)).Nodup)
    (hfront : ∀ m ∈ front, m.1 ∈ known) : ((front ++ extra).map (·.1)).Nodup := by
  rw [List.map_append, List.nodup_append]
  refine ⟨hkeys, h.sorted.nodup, fun key hkey other hother => ?_⟩
  obtain ⟨m, hm, rfl⟩ := List.mem_map.mp hkey
  rintro rfl
  exact h.unknown _ hother (hfront m hm)

theorem Beside.get?_known (h : extra.Beside known H) (hkey : key ∈ known) :
    KeyMap.get? (front ++ extra) key = front.get? key := by
  rw [get?_append, get?_eq_none_iff.mpr fun hmem => h.unknown key hmem hkey, Option.or_none]

theorem get?_append_other (hfront : ∀ m ∈ front, m.1 ∈ known) (hkey : key ∉ known) :
    KeyMap.get? (front ++ extra) key = extra.get? key := by
  have hnone : front.get? key = none := by
    rw [get?_eq_none_iff]
    intro hmem
    obtain ⟨m, hm, rfl⟩ := List.mem_map.mp hmem
    exact hkey (hfront m hm)
  rw [get?_append, hnone, Option.none_or]

theorem get?_member? (k : String) (value : Option Json) :
    KeyMap.get? (Json.member? k value) key = if key = k then value else none := by
  cases value with
  | none => simp [Json.member?]
  | some j => simp [Json.member?, get?_cons]

end KeyMap

theorem Fields.gives_optional_of_some {α : Type} {members : List (String × Json)} {key : String}
    {r : Reader α} {default a : α} {j : Json} (hkeys : (members.map (·.1)).Nodup)
    (hget : KeyMap.get? members key = some j) :
    (Fields.optional key r default).Gives members a ↔ r.ofJson j = .ok a := by
  simp [Fields.gives_optional hkeys, hget]

end WorkflowCanvas
