import WorkflowCanvas.Proofs.Web.Percent
import WorkflowCanvas.Web.Url

/-! Paths of addresses. Segments that are put behind a path are encoded and stand there as they are, if
they are not points and hold no slash; what points do to the segments before them is done by then. -/
namespace WorkflowCanvas

/-! ### Cutting -/

namespace Host
variable {at? : Char → Bool} {c : Char} {xs ys : List Char}

theorem cut_of_none (h : ∀ c ∈ xs, at? c = false) : cut at? xs = [xs] := by
  induction xs with
  | nil => rfl
  | cons c xs ih =>
    obtain ⟨hc, hxs⟩ := List.forall_mem_cons.mp h
    rw [cut, hc, ih hxs]
    rfl

theorem cut_ne_nil (at? : Char → Bool) (xs : List Char) : cut at? xs ≠ [] := by
  cases xs with
  | nil => simp [cut]
  | cons c xs =>
    rw [cut]
    split
    · simp
    · split <;> simp

theorem cut_append (hc : at? c = true) (xs ys : List Char) :
    cut at? (xs ++ c :: ys) = cut at? xs ++ cut at? ys := by
  induction xs with
  | nil => simp [cut, hc]
  | cons x xs ih =>
    rw [List.cons_append, cut, cut, ih]
    split
    · rfl
    · cases hcut : cut at? xs with
      | nil => exact absurd hcut (cut_ne_nil at? xs)
      | cons part parts => rfl

end Host

namespace Percent
variable {cls : Char → Bool}

theorem encode_append (xs ys : List Char) : encode cls (xs ++ ys) = encode cls xs ++ encode cls ys :=
  List.flatMap_append

theorem encode_cons_of_not {c : Char} (hc : cls c = false) (cs : List Char) :
    encode cls (c :: cs) = c :: encode cls cs := by
  simp [encode, hc]

/-- What a character is encoded as: a percent sign and two digits for each of its bytes. -/
theorem mem_encodeChar {c d : Char} (h : d ∈ encodeChar c) : d = '%' ∨ ∃ n < 16, d = hexDigit n := by
  obtain ⟨b, -, hd⟩ := List.mem_flatMap.mp h
  have hb : b.toNat < 256 := b.toNat_lt
  simp only [List.mem_cons, List.not_mem_nil, or_false] at hd
  obtain rfl | rfl | rfl := hd
  · exact .inl rfl
  · exact .inr ⟨_, by omega, rfl⟩
  · exact .inr ⟨_, by omega, rfl⟩

theorem mem_encode {cs : List Char} {d : Char} (h : d ∈ encode cls cs) :
    d ∈ cs ∨ d = '%' ∨ ∃ n < 16, d = hexDigit n := by
  obtain ⟨c, hc, hd⟩ := List.mem_flatMap.mp h
  split at hd
  · exact .inr (mem_encodeChar hd)
  · exact .inl (List.mem_singleton.mp hd ▸ hc)

theorem not_isSlash_hexDigit : ∀ n < 16, Url.isSlash (hexDigit n) = false := by decide

theorem hexDigit_ne_percent : ∀ n < 16, hexDigit n ≠ '%' := by decide

theorem not_isSlash_encode {cs : List Char} (h : ∀ c ∈ cs, Url.isSlash c = false) :
    ∀ c ∈ encode cls cs, Url.isSlash c = false := by
  intro c hc
  obtain hc | rfl | ⟨n, hn, rfl⟩ := mem_encode hc
  · exact h c hc
  · rfl
  · exact not_isSlash_hexDigit n hn

end Percent

namespace Url
open Percent
variable {c : Char} {cs : List Char}

/-! ### Points -/

theorem points_cons_of_ne (h : c ≠ '%') : points (c :: cs) = c :: points cs :=
  points.eq_3 c cs (fun _ heq => absurd heq h) fun _ heq => absurd heq h

theorem hexDigit_point : ∀ n < 16, (hexDigit n = '2' → n = 2) ∧ (hexDigit n = 'E' → n = 14) ∧
    hexDigit n ≠ 'e' := by decide

/-- A byte other than that of a point is not taken for a point. -/
theorem points_encoded {b : UInt8} (hb : b ≠ 0x2e) (cs : List Char) :
    points ('%' :: hexDigit (b.toNat / 16) :: hexDigit (b.toNat % 16) :: cs) =
      '%' :: hexDigit (b.toNat / 16) :: hexDigit (b.toNat % 16) :: points cs := by
  have hlt : b.toNat < 256 := b.toNat_lt
  have hhigh : b.toNat / 16 < 16 := by omega
  have hlow : b.toNat % 16 < 16 := by omega
  have hb' : b.toNat ≠ 46 := fun h => hb (UInt8.toNat_inj.mp h)
  rw [points.eq_3, points_cons_of_ne (hexDigit_ne_percent _ hhigh),
    points_cons_of_ne (hexDigit_ne_percent _ hlow)]
  · rintro rest - heq
    obtain ⟨-, hrest⟩ := List.cons.inj heq
    exact (hexDigit_point _ hlow).2.2 (List.cons.inj hrest).1
  · rintro rest - heq
    obtain ⟨htwo, hrest⟩ := List.cons.inj heq
    have h2 := (hexDigit_point _ hhigh).1 htwo
    have h14 := (hexDigit_point _ hlow).2.1 (List.cons.inj hrest).1
    omega

theorem ofNat_ne_point {n : Nat} (h : n % 256 ≠ 46) : UInt8.ofNat n ≠ 0x2e := by
  intro heq
  exact h (by simpa using congrArg UInt8.toNat heq)

/-- Only a point has its byte. -/
theorem utf8EncodeChar_ne_point (hc : c ≠ '.') : ∀ b ∈ String.utf8EncodeChar c, b ≠ 0x2e := by
  have hval : c.val.toNat ≠ 46 := fun h => hc (Char.ext (UInt32.toNat_inj.mp h))
  fun_cases String.utf8EncodeChar c with
  | case1 => exact List.forall_mem_singleton.mpr (ofNat_ne_point (by omega))
  | case2 =>
    exact List.forall_mem_cons.mpr ⟨ofNat_ne_point (by omega),
      List.forall_mem_singleton.mpr (ofNat_ne_point (by omega))⟩
  | case3 =>
    exact List.forall_mem_cons.mpr ⟨ofNat_ne_point (by omega),
      List.forall_mem_cons.mpr ⟨ofNat_ne_point (by omega),
        List.forall_mem_singleton.mpr (ofNat_ne_point (by omega))⟩⟩
  | case4 =>
    exact List.forall_mem_cons.mpr ⟨ofNat_ne_point (by omega),
      List.forall_mem_cons.mpr ⟨ofNat_ne_point (by omega),
        List.forall_mem_cons.mpr ⟨ofNat_ne_point (by omega),
          List.forall_mem_singleton.mpr (ofNat_ne_point (by omega))⟩⟩⟩

theorem points_encodeChar (hc : c ≠ '.') (cs : List Char) :
    points (encodeChar c ++ cs) = encodeChar c ++ points cs := by
  have hbytes := utf8EncodeChar_ne_point hc
  rw [encodeChar, utf8_singleton]
  generalize String.utf8EncodeChar c = bytes at hbytes ⊢
  induction bytes with
  | nil => rfl
  | cons b bytes ih =>
    obtain ⟨hb, hrest⟩ := List.forall_mem_cons.mp hbytes
    exact (points_encoded hb _).trans
      (congrArg ('%' :: hexDigit (b.toNat / 16) :: hexDigit (b.toNat % 16) :: ·) (ih hrest))

theorem points_encode (h : '%' ∉ cs) : points (encode inPath cs) = encode inPath cs := by
  induction cs with
  | nil => rfl
  | cons c cs ih =>
    obtain ⟨hc, hcs⟩ := not_or.mp (mt List.mem_cons.mpr h)
    rw [encode, List.flatMap_cons, ← encode]
    split
    · next hpath =>
      have hpoint : c ≠ '.' := by
        rintro rfl
        cases hpath
      rw [points_encodeChar hpoint, ih hcs]
    · rw [List.singleton_append, points_cons_of_ne (Ne.symm hc), ih hcs]

/-! ### Segments -/

/-- A text that is one segment of a path, as it stands. -/
structure Segment (cs : List Char) : Prop where
  percent : '%' ∉ cs
  slash : ∀ c ∈ cs, isSlash c = false
  point : cs ≠ ['.']
  points : cs ≠ ['.', '.']

instance : Decidable (Segment cs) :=
  decidable_of_iff ('%' ∉ cs ∧ cs.all (!isSlash ·) = true ∧ cs ≠ ['.'] ∧ cs ≠ ['.', '.'])
    ⟨fun ⟨percent, slash, point, points⟩ => ⟨percent, by simpa using slash, point, points⟩,
      fun h => ⟨h.percent, by simpa using h.slash, h.point, h.points⟩⟩

theorem Segment.encode_ne {cs cs' : List Char} (hcs : Segment cs) (hne : cs ≠ cs') (hcs' : '%' ∉ cs') :
    encode inPath cs ≠ encode inPath cs' := by
  intro heq
  have hdecode := decode?_encode inPath hcs.percent
  rw [heq, decode?_encode inPath hcs'] at hdecode
  exact hne (Option.some.inj hdecode).symm

theorem Segment.points_ne (h : Segment cs) : Url.points (encode inPath cs) ≠ ['.'] ∧
    Url.points (encode inPath cs) ≠ ['.', '.'] := by
  rw [points_encode h.percent]
  exact ⟨h.encode_ne h.point (by decide), h.encode_ne h.points (by decide)⟩

/-- The segments that are left of some that others follow. -/
def settle (before : List (List Char)) : List (List Char) → List (List Char)
  | [] => before
  | part :: parts =>
    if Url.points part = ['.'] then settle before parts
    else if Url.points part = ['.', '.'] then settle before.dropLast parts
    else settle (before ++ [part]) parts

theorem follow_append (before parts : List (List Char)) {next : List (List Char)} (hnext : next ≠ []) :
    follow before (parts ++ next) = follow (settle before parts) next := by
  induction parts generalizing before with
  | nil => rfl
  | cons part parts ih =>
    have hmore : (parts ++ next).isEmpty = false := by simp [hnext]
    rw [List.cons_append, follow, settle]
    simp only [hmore, Bool.false_eq_true, if_false, List.append_nil, ih]
    split
    · rfl
    · split <;> rfl

theorem follow_of_segments (before : List (List Char)) {segments : List (List Char)}
    (h : ∀ part ∈ segments, Url.points part ≠ ['.'] ∧ Url.points part ≠ ['.', '.']) :
    follow before segments = before ++ segments := by
  induction segments generalizing before with
  | nil => rw [follow, List.append_nil]
  | cons part segments ih =>
    obtain ⟨⟨hone, htwo⟩, hrest⟩ := List.forall_mem_cons.mp h
    rw [follow, if_neg hone, if_neg htwo, ih _ hrest, List.append_assoc, List.singleton_append]

/-- The segments of a path that others follow. -/
def folders (path : List Char) : List (List Char) :=
  settle [] (Host.cut isSlash (encode inPath path)).tail

theorem cut_encode_segments (path : List Char) {segments : List (List Char)}
    (h : ∀ s ∈ segments, ∀ c ∈ s, isSlash c = false) :
    Host.cut isSlash (encode inPath (path ++ segments.flatMap ('/' :: ·))) =
      Host.cut isSlash (encode inPath path) ++ segments.map (encode inPath) := by
  induction segments generalizing path with
  | nil => simp
  | cons s segments ih =>
    obtain ⟨hs, hrest⟩ := List.forall_mem_cons.mp h
    have hpath : path ++ (s :: segments).flatMap ('/' :: ·) =
        (path ++ '/' :: s) ++ segments.flatMap ('/' :: ·) := by simp
    have hslash : encode inPath ('/' :: s) = '/' :: encode inPath s := encode_cons_of_not (by decide) s
    rw [hpath, ih _ hrest, encode_append, hslash, Host.cut_append (by decide),
      Host.cut_of_none (not_isSlash_encode hs)]
    simp

/-- Segments behind a path, which is nothing or starts with a slash. -/
theorem pathText_append {path : List Char} {segments : List (List Char)}
    (hpath : ∀ c ∈ path.head?, isSlash c = true) (hne : segments ≠ [])
    (h : ∀ s ∈ segments, Segment s) :
    pathText (path ++ segments.flatMap ('/' :: ·)) =
      String.ofList ((folders path ++ segments.map (encode inPath)).flatMap ('/' :: ·)) := by
  have hfirst : ∃ parts, Host.cut isSlash (encode inPath path) = [] :: parts := by
    cases path with
    | nil => exact ⟨[], rfl⟩
    | cons c path =>
      have hc : isSlash c = true := hpath c rfl
      have hplain : inPath c = false := by
        simp only [isSlash, Bool.or_eq_true, beq_iff_eq] at hc
        obtain rfl | rfl := hc <;> rfl
      exact ⟨Host.cut isSlash (encode inPath path), by rw [encode_cons_of_not hplain, Host.cut, hc]; rfl⟩
  obtain ⟨parts, hparts⟩ := hfirst
  have hsegments : segments.map (encode inPath) ≠ [] := by simpa using hne
  have hcut := cut_encode_segments path fun s hs => (h s hs).slash
  rw [hparts] at hcut
  obtain ⟨part, rest, hrest⟩ := List.exists_cons_of_ne_nil
    (show parts ++ segments.map (encode inPath) ≠ [] by simp [hsegments])
  rw [List.cons_append, hrest] at hcut
  rw [pathText, hcut, folders, hparts]
  simp only [List.tail_cons]
  rw [← hrest, follow_append [] parts hsegments, follow_of_segments]
  intro part hpart
  obtain ⟨s, hs, rfl⟩ := List.mem_map.mp hpart
  exact (h s hs).points_ne

end Url
end WorkflowCanvas
