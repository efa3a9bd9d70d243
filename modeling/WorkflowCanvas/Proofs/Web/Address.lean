import Mathlib.Data.List.TakeWhile
import WorkflowCanvas.Proofs.Web.Path

/-! Addresses that go on behind a usable one. The host stays what it is, and the path is the old one with
more segments behind it, as long as neither has a query or a fragment. -/
namespace WorkflowCanvas.Url
variable {cs xs ys : List Char}

/-! ### Cleaning -/

def isLow (c : Char) : Bool := c.toNat ≤ 32

def isKept (c : Char) : Bool := c ≠ '\t' ∧ c ≠ '\n' ∧ c ≠ '\r'

/-- No blank and no control stands at the end. -/
def Closed (cs : List Char) : Prop := ∀ c ∈ cs.getLast?, isLow c = false

instance : Decidable (Closed cs) :=
  decidable_of_iff (cs.getLast?.all (!isLow ·) = true) (by simp [Closed, Option.all_eq_true])

theorem Closed.dropWhile (h : Closed cs) (p : Char → Bool) : Closed (cs.dropWhile p) := by
  intro c hc
  refine h c ?_
  obtain ⟨before, hbefore⟩ := List.dropWhile_suffix (l := cs) p
  rw [← hbefore, List.getLast?_append, hc]
  rfl

theorem cleaned_of_closed (h : Closed cs) :
    cleaned (String.ofList cs) = (cs.dropWhile isLow).filter isKept := by
  have hlast : (cs.dropWhile isLow).reverse.dropWhile isLow = (cs.dropWhile isLow).reverse := by
    have hclosed := h.dropWhile isLow
    rw [Closed, ← List.head?_reverse] at hclosed
    cases hrev : (cs.dropWhile isLow).reverse with
    | nil => rfl
    | cons c rest => rw [List.dropWhile_cons, hclosed c (by rw [hrev]; rfl)]; rfl
  show (((String.ofList cs).toList.dropWhile isLow).reverse.dropWhile isLow).reverse.filter isKept = _
  rw [String.toList_ofList, hlast, List.reverse_reverse]

/-- What does not start as the text before it goes on ends that text. -/
theorem takeWhile_append_of_head (p : Char → Bool) (xs : List Char) (h : ∀ c ∈ ys.head?, p c = false) :
    (xs ++ ys).takeWhile p = xs.takeWhile p ∧
      ((xs ++ ys).dropWhile p = xs.dropWhile p ++ ys) := by
  have hys : ys.takeWhile p = [] ∧ ys.dropWhile p = ys := by
    cases ys with
    | nil => exact ⟨rfl, rfl⟩
    | cons c ys => simp [h c rfl]
  induction xs with
  | nil => exact hys
  | cons x xs ih =>
    cases hx : p x with
    | false => simp [hx]
    | true => simpa [hx] using ih

/-! ### Scheme and host -/

theorem takeWhile_append_of_mem (p : Char → Bool) (ys : List Char) {c : Char} (hc : c ∈ xs)
    (hp : p c = false) :
    (xs ++ ys).takeWhile p = xs.takeWhile p ∧ (xs ++ ys).dropWhile p = xs.dropWhile p ++ ys := by
  induction xs with
  | nil => cases hc
  | cons x xs ih =>
    cases hx : p x with
    | false => simp [hx]
    | true =>
      obtain rfl | hc := List.mem_cons.mp hc
      · exact absurd (hx.symm.trans hp) (by decide)
      · simpa [hx] using ih hc

/-- Slashes at the end of an address stand behind its host, and what follows them may follow it without
them. -/
theorem afterScheme?_append (h : ∀ c ∈ ys, isSlash c = true) (hcs : afterScheme? (xs ++ ys) = some cs)
    (hne : cs ≠ []) :
    ∃ body ⊆ xs, cs = body ++ ys ∧ ∀ zs, afterScheme? (xs ++ zs) = some (body ++ zs) := by
  have hcolon : ':' ∈ xs := by
    refine Decidable.byContradiction fun hnone => ?_
    have hall : ∀ c ∈ xs ++ ys, decide (c ≠ ':') = true := by
      intro c hc
      refine decide_eq_true ?_
      rintro rfl
      obtain hc | hc := List.mem_append.mp hc
      · exact hnone hc
      · exact absurd (h _ hc) (by decide)
    rw [afterScheme?, List.dropWhile_eq_nil_iff.mpr hall] at hcs
    cases hcs
  have hsplit (zs : List Char) := takeWhile_append_of_mem (fun c => decide (c ≠ ':')) zs
    hcolon (by decide)
  simp only [afterScheme?, hsplit] at hcs ⊢
  have hrest : xs.dropWhile (fun c => decide (c ≠ ':')) ≠ [] := by
    intro hnil
    exact absurd (List.dropWhile_eq_nil_iff.mp hnil _ hcolon) (by decide)
  obtain ⟨colon, rest, heq⟩ := List.exists_cons_of_ne_nil hrest
  simp only [heq, List.cons_append, List.isEmpty_cons, List.tail_cons, Bool.false_eq_true, if_false] at hcs ⊢
  split at hcs
  · next hname =>
    have hcs := Option.some.inj hcs
    have hsome : ∃ c ∈ rest, isSlash c = false := by
      refine Classical.byContradiction fun hnone => ?_
      have hall : ∀ c ∈ rest ++ ys, isSlash c = true := by
        intro c hc
        obtain hc | hc := List.mem_append.mp hc
        · exact Bool.of_not_eq_false fun hslash => hnone ⟨c, hc, hslash⟩
        · exact h c hc
      exact hne (hcs.symm.trans (List.dropWhile_eq_nil_iff.mpr hall))
    obtain ⟨c, hc, hslash⟩ := hsome
    refine ⟨rest.dropWhile isSlash, fun d hd => ?_, ?_, fun zs => ?_⟩
    · have hmem : d ∈ colon :: rest := List.mem_cons_of_mem _ ((List.dropWhile_sublist _).subset hd)
      exact (List.dropWhile_sublist _).subset (heq ▸ hmem)
    · rw [← hcs, (takeWhile_append_of_mem _ _ hc hslash).2]
    · rw [if_pos hname, (takeWhile_append_of_mem _ _ hc hslash).2]
  · cases hcs

/-- Where the host ends. -/
def ends (c : Char) : Bool := isSlash c || c == '?' || c == '#'

/-- The host of an address, with what may stand around it. -/
def host? (cs : List Char) : Option Host :=
  let (host, number) := atColon (afterUser cs)
  if isHostNumber number then Host.parse? host else none

theorem host?_nil : host? [] = none := by decide +kernel

/-- The address of which this stands behind the scheme. -/
def ofBody? (cs : List Char) : Option Url := do
  let host ← host? (cs.takeWhile (!ends ·))
  let rest := (cs.dropWhile (!ends ·)).takeWhile (· ≠ '#')
  let query := rest.dropWhile (· ≠ '?')
  return {
    host
    path := pathText (rest.takeWhile (· ≠ '?'))
    query := if query.isEmpty then none else some (String.ofList (Percent.encode inQuery query.tail)) }

theorem parse?_eq (s : String) : parse? s = (afterScheme? (cleaned s)).bind ofBody? := by
  rw [parse?]
  cases afterScheme? (cleaned s) with
  | none => rfl
  | some cs =>
    show _ = ofBody? cs
    unfold ofBody? host?
    simp only [Option.bind_eq_bind, Option.bind_some, ends]
    split
    · next hnumber =>
      rw [Bool.not_eq_true'] at hnumber
      simp only [hnumber]
      rfl
    · next hnumber =>
      rw [Bool.not_eq_true', Bool.not_eq_false] at hnumber
      simp only [hnumber]
      rfl

theorem ofBody?_append (hys : ∀ c ∈ ys.head?, isSlash c = true)
    (hplain : ∀ c ∈ xs ++ ys, c ≠ '?' ∧ c ≠ '#') :
    ofBody? (xs ++ ys) = (host? (xs.takeWhile (!ends ·))).map fun host =>
      { host, path := pathText (xs.dropWhile (!ends ·) ++ ys) } := by
  obtain ⟨htake, hdrop⟩ := takeWhile_append_of_head (!ends ·) xs
    fun c (hc : c ∈ ys.head?) => by simp [ends, hys c hc]
  have hrest : ∀ c ∈ xs.dropWhile (!ends ·) ++ ys, c ≠ '?' ∧ c ≠ '#' := by
    intro c hc
    rw [← hdrop] at hc
    exact hplain c ((List.dropWhile_sublist _).subset hc)
  have hfragment : (xs.dropWhile (!ends ·) ++ ys).takeWhile (· ≠ '#') = xs.dropWhile (!ends ·) ++ ys :=
    List.takeWhile_eq_self_iff.mpr fun c hc => decide_eq_true (hrest c hc).2
  have hpath : (xs.dropWhile (!ends ·) ++ ys).takeWhile (· ≠ '?') = xs.dropWhile (!ends ·) ++ ys :=
    List.takeWhile_eq_self_iff.mpr fun c hc => decide_eq_true (hrest c hc).1
  have hquery : (xs.dropWhile (!ends ·) ++ ys).dropWhile (· ≠ '?') = [] :=
    List.dropWhile_eq_nil_iff.mpr fun c hc => decide_eq_true (hrest c hc).1
  simp only [ofBody?, htake, hdrop, hfragment, hpath, hquery]
  cases host? (xs.takeWhile (!ends ·)) <;> rfl

/-! ### Addresses -/

/-- A text that goes on with the path of an address and ends with it. -/
structure Tail (cs : List Char) : Prop where
  query : '?' ∉ cs
  fragment : '#' ∉ cs
  kept : ∀ c ∈ cs, isKept c = true
  closed : Closed cs

instance : Decidable (Tail cs) :=
  decidable_of_iff ('?' ∉ cs ∧ '#' ∉ cs ∧ cs.all isKept = true ∧ Closed cs)
    ⟨fun ⟨query, fragment, kept, closed⟩ => ⟨query, fragment, List.all_eq_true.mp kept, closed⟩,
      fun h => ⟨h.query, h.fragment, List.all_eq_true.mpr h.kept, h.closed⟩⟩

theorem Closed.append (h : Closed ys) (hne : ys ≠ []) : Closed (xs ++ ys) := by
  intro c hc
  rw [List.getLast?_append, List.getLast?_eq_some_getLast hne] at hc
  exact h c (List.getLast?_eq_some_getLast hne ▸ hc)

/-- What follows a usable address without the slashes at its end leaves the host what it is. -/
theorem parse?_append {base slashes : List Char} (hslashes : ∀ c ∈ slashes, c = '/')
    (hquery : '?' ∉ base) (hfragment : '#' ∉ base) (hclosed : Closed (base ++ slashes))
    (hvalid : (parse? (String.ofList (base ++ slashes))).isSome) :
    ∃ host path, (∀ c ∈ path.head?, isSlash c = true) ∧ ∀ cs, Tail ('/' :: cs) →
      parse? (String.ofList (base ++ '/' :: cs)) =
        some { host, path := pathText (path ++ '/' :: cs) } := by
  have hslash : ∀ c ∈ slashes, isSlash c = true ∧ isLow c = false ∧ isKept c = true ∧
      c ≠ '?' ∧ c ≠ '#' := by
    rintro c hc
    rw [hslashes c hc]
    decide
  let xs := (base.dropWhile isLow).filter isKept
  have hcleaned {ys : List Char} (hclosed : Closed (base ++ ys))
      (hhead : ∀ c ∈ ys.head?, isLow c = false) (hkept : ∀ c ∈ ys, isKept c = true) :
      cleaned (String.ofList (base ++ ys)) = xs ++ ys := by
    rw [cleaned_of_closed hclosed, (takeWhile_append_of_head _ _ hhead).2, List.filter_append,
      List.filter_eq_self.mpr hkept]
  rw [parse?_eq, hcleaned hclosed (fun c hc => (hslash c (List.mem_of_mem_head? hc)).2.1)
    fun c hc => (hslash c hc).2.2.1] at hvalid
  obtain ⟨u, hu⟩ := Option.isSome_iff_exists.mp hvalid
  obtain ⟨cs, hcs, hbody⟩ := Option.bind_eq_some_iff.mp hu
  have hne : cs ≠ [] := by
    rintro rfl
    rw [ofBody?, List.takeWhile_nil, host?_nil] at hbody
    cases hbody
  obtain ⟨body, hsub, rfl, hafter⟩ := afterScheme?_append (fun c hc => (hslash c hc).1) hcs hne
  have hplain : ∀ c ∈ body, c ≠ '?' ∧ c ≠ '#' := by
    intro c hc
    have hbase : c ∈ base := (List.dropWhile_sublist _).subset (List.mem_filter.mp (hsub hc)).1
    exact ⟨fun h => hquery (h ▸ hbase), fun h => hfragment (h ▸ hbase)⟩
  rw [ofBody?_append (fun c hc => (hslash c (List.mem_of_mem_head? hc)).1)
    (List.forall_mem_append.mpr ⟨hplain, fun c hc => (hslash c hc).2.2.2⟩)] at hbody
  obtain ⟨host, hhost, -⟩ := Option.map_eq_some_iff.mp hbody
  refine ⟨host, body.dropWhile (!ends ·), ?_, fun cs hcs => ?_⟩
  · intro c hc
    have hends : ends c = true := by
      have := List.head?_dropWhile_not (!ends ·) body
      rw [hc] at this
      simpa using this
    have hmem : c ∈ body := (List.dropWhile_sublist _).subset (List.mem_of_mem_head? hc)
    simpa [ends, hplain c hmem] using hends
  · rw [parse?_eq, hcleaned (hcs.closed.append (List.cons_ne_nil _ _)) (by rintro c ⟨⟩; decide) hcs.kept,
      hafter, Option.bind_some, ofBody?_append (by rintro c ⟨⟩; decide), hhost]
    · rfl
    · refine List.forall_mem_append.mpr ⟨hplain, fun c hc => ?_⟩
      exact ⟨fun h => hcs.query (h ▸ hc), fun h => hcs.fragment (h ▸ hc)⟩

end WorkflowCanvas.Url
