import MovieCatalogue.Endpoint.Request
import MovieCatalogue.Proofs.Text.Cutting

/-!
Contract: path segments.

Owns: that an identifier which is written as a path segment reads back, whatever it is;
that it never splits a path; `unescape`, one pass over the escapes of a segment, which is what
reading any segment comes to; and the segments of the paths of a route and of one of its records.
Does not own: the empty identifier, whose segment is not seen in a path.
-/

namespace MovieCatalogue.Endpoint

open MovieCatalogue.Text

/-! ## Writing -/

/-- A character after the percent sign was escaped. -/
def percentWritten (c : Char) : List Char :=
  if c = '%' then ['%', '2', '5'] else [c]

/-- A character as it is written in a segment. -/
def charWritten (c : Char) : List Char :=
  if c = '/' then ['%', '2', 'F'] else percentWritten c

theorem toList_encodeSegment (id : String) :
    (encodeSegment id).toList = id.toList.flatMap charWritten := by
  have percent : replaceAll '%' [] ['%', '2', '5'] id.toList = id.toList.flatMap percentWritten := by
    have pieces : replaceAll '%' [] ['%', '2', '5'] (id.toList.flatMap fun c => [c]) =
        id.toList.flatMap percentWritten := by
      refine replaceAll_flatMap (fun c rest => ?_) id.toList
      unfold percentWritten
      split
      case isTrue isPercent => exact isPercent ▸ replaceAll_append rest
      case isFalse different => exact replaceAll_cons_of_ne different rest
    rwa [List.flatMap_singleton'] at pieces
  -- The slashes are escaped in the second pass, which finds none in an escaped percent sign.
  rw [encodeSegment, String.toList_ofList, percent]
  refine replaceAll_flatMap (fun c rest => ?_) id.toList
  unfold charWritten
  split
  case isTrue isSlash =>
      have stays : percentWritten '/' = ['/'] := rfl
      rw [isSlash, stays]
      exact replaceAll_append rest
  case isFalse notSlash =>
      unfold percentWritten
      split
      case isTrue => simp [replaceAll_cons_of_ne]
      case isFalse => exact replaceAll_cons_of_ne notSlash rest

/-- A segment never splits a path. -/
theorem slash_not_mem_encodeSegment (id : String) : '/' ∉ (encodeSegment id).toList := by
  rw [toList_encodeSegment, List.mem_flatMap]
  rintro ⟨c, -, slash⟩
  unfold charWritten percentWritten at slash
  split at slash
  case isTrue => simp at slash
  case isFalse notSlash =>
      split at slash
      case isTrue => simp at slash
      case isFalse => exact notSlash (List.mem_singleton.mp slash).symm

theorem encodeSegment_ne_empty {id : String} (nonempty : id ≠ "") : encodeSegment id ≠ "" := by
  intro empty
  have noChars : id.toList.flatMap charWritten = [] := by
    rw [← toList_encodeSegment, empty]
    rfl
  refine nonempty (String.toList_eq_nil_iff.mp ?_)
  refine List.eq_nil_iff_forall_not_mem.mpr fun c member => ?_
  have nothing := List.flatMap_eq_nil_iff.mp noChars c member
  unfold charWritten percentWritten at nothing
  split at nothing
  · cases nothing
  · split at nothing
    · cases nothing
    · cases nothing

/-! ## Reading -/

/-- A sequence that is not the one of the percent sign does not occur where this was written. -/
theorem replaceAll_percentWritten {code : Char} (other : code ≠ '5') (c : Char)
    (rest : List Char) :
    replaceAll '%' ['2', code] ['/'] (percentWritten c ++ rest) =
      percentWritten c ++ replaceAll '%' ['2', code] ['/'] rest := by
  unfold percentWritten
  split
  case isTrue =>
      rw [List.cons_append, replaceAll_cons (by simp [stripStart?, other])]
      simp [replaceAll_cons_of_ne]
  case isFalse notPercent => exact replaceAll_cons_of_ne notPercent rest

/-- An identifier reads back from its segment. -/
theorem decodeSegment_encodeSegment (id : String) : decodeSegment (encodeSegment id) = id := by
  have slashes : replaceAll '%' ['2', 'F'] ['/'] (encodeSegment id).toList =
      id.toList.flatMap percentWritten := by
    rw [toList_encodeSegment]
    refine replaceAll_flatMap (fun c rest => ?_) id.toList
    unfold charWritten
    split
    case isTrue isSlash =>
        subst isSlash
        exact replaceAll_append rest
    case isFalse => exact replaceAll_percentWritten (by decide) c rest
  -- The lower-case form of an escaped slash is read as well but never written.
  have kept : replaceAll '%' ['2', 'f'] ['/'] (id.toList.flatMap percentWritten) =
      id.toList.flatMap percentWritten :=
    replaceAll_flatMap (replaceAll_percentWritten (by decide)) id.toList
  have percents : replaceAll '%' ['2', '5'] ['%'] (id.toList.flatMap percentWritten) =
      id.toList.flatMap fun c => [c] := by
    refine replaceAll_flatMap (fun c rest => ?_) id.toList
    unfold percentWritten
    split
    case isTrue isPercent => exact isPercent ▸ replaceAll_append rest
    case isFalse notPercent => exact replaceAll_cons_of_ne notPercent rest
  rw [decodeSegment, slashes, kept, percents, List.flatMap_singleton', String.ofList_toList]

/-! ## Reading in one pass -/

/-- One pass from left to right over the escapes of a segment. What an escape stands for is not
looked at again, and everything else is copied. -/
def unescape : List Char → List Char
  | '%' :: '2' :: 'F' :: rest => '/' :: unescape rest
  | '%' :: '2' :: 'f' :: rest => '/' :: unescape rest
  | '%' :: '2' :: '5' :: rest => '%' :: unescape rest
  | c :: rest => c :: unescape rest
  | [] => []

variable {code : Char} {cs rest : List Char}

/-- A percent sign stays where its escape is another one or none. -/
theorem replaceAll_percent_cons {replacement : List Char}
    (missed : ∀ tail, cs ≠ '2' :: code :: tail) :
    replaceAll '%' ['2', code] replacement ('%' :: cs) =
      '%' :: replaceAll '%' ['2', code] replacement cs := by
  refine replaceAll_cons (stripStart?_eq_none_iff.mpr ?_)
  rintro ⟨tail, begins⟩
  exact missed tail (List.cons.inj begins).2.symm

/-- Putting in slashes does not write the end of an escape. -/
theorem exists_of_replaceAll_eq_escape {other : Char} (notSlash : code ≠ '/')
    (replaced : replaceAll '%' ['2', other] ['/'] cs = '2' :: code :: rest) :
    ∃ tail, cs = '2' :: code :: tail := by
  obtain ⟨behind, rfl, replacedBehind⟩ := exists_of_replaceAll_eq_cons (by decide) replaced
  obtain ⟨tail, rfl, -⟩ := exists_of_replaceAll_eq_cons notSlash replacedBehind
  exact ⟨tail, rfl⟩

/-- An escape is read by its own pass. -/
theorem replaceAll_escape {replacement : List Char} (rest : List Char) :
    replaceAll '%' ['2', code] replacement ('%' :: '2' :: code :: rest) =
      replacement ++ replaceAll '%' ['2', code] replacement rest :=
  replaceAll_append rest

/-- An escape stays in the pass of another one. -/
theorem replaceAll_other_escape {other : Char} (different : code ≠ other) (notPercent : code ≠ '%')
    {replacement : List Char} (rest : List Char) :
    replaceAll '%' ['2', other] replacement ('%' :: '2' :: code :: rest) =
      '%' :: '2' :: code :: replaceAll '%' ['2', other] replacement rest := by
  have missed : ∀ tail, '2' :: code :: rest ≠ '2' :: other :: tail := by simp [different]
  rw [replaceAll_percent_cons missed, replaceAll_cons_of_ne (by decide),
    replaceAll_cons_of_ne notPercent]

/-- The passes over the single escapes, one after the other, do what one pass does. -/
theorem replaceAll_escapes (cs : List Char) :
    replaceAll '%' ['2', '5'] ['%']
      (replaceAll '%' ['2', 'f'] ['/'] (replaceAll '%' ['2', 'F'] ['/'] cs)) = unescape cs := by
  fun_induction unescape cs with
  | case1 rest inductionHypothesis =>
      rw [replaceAll_escape, List.singleton_append, replaceAll_cons_of_ne (by decide),
        replaceAll_cons_of_ne (by decide), inductionHypothesis]
  | case2 rest inductionHypothesis =>
      rw [replaceAll_other_escape (by decide) (by decide), replaceAll_escape,
        List.singleton_append, replaceAll_cons_of_ne (by decide), inductionHypothesis]
  | case3 rest inductionHypothesis =>
      rw [replaceAll_other_escape (by decide) (by decide),
        replaceAll_other_escape (by decide) (by decide), replaceAll_escape,
        List.singleton_append, inductionHypothesis]
  | case4 c rest notUpper notLower notPercent inductionHypothesis =>
      rw [← inductionHypothesis]
      by_cases isPercent : c = '%'
      · subst isPercent
        -- An earlier pass does not turn this percent sign into the begin of a later escape.
        have noUpper : ∀ tail, rest ≠ '2' :: 'F' :: tail := fun tail => notUpper tail rfl
        have noLower : ∀ tail, replaceAll '%' ['2', 'F'] ['/'] rest ≠ '2' :: 'f' :: tail := by
          intro tail replaced
          obtain ⟨tail, begins⟩ := exists_of_replaceAll_eq_escape (by decide) replaced
          exact notLower tail rfl begins
        have noPercent : ∀ tail, replaceAll '%' ['2', 'f'] ['/']
            (replaceAll '%' ['2', 'F'] ['/'] rest) ≠ '2' :: '5' :: tail := by
          intro tail replaced
          obtain ⟨tail, replacedBefore⟩ := exists_of_replaceAll_eq_escape (by decide) replaced
          obtain ⟨tail, begins⟩ := exists_of_replaceAll_eq_escape (by decide) replacedBefore
          exact notPercent tail rfl begins
        rw [replaceAll_percent_cons noUpper, replaceAll_percent_cons noLower,
          replaceAll_percent_cons noPercent]
      · rw [replaceAll_cons_of_ne isPercent, replaceAll_cons_of_ne isPercent,
          replaceAll_cons_of_ne isPercent]
  | case5 => rw [replaceAll_nil, replaceAll_nil, replaceAll_nil]

/--
A text that is written as a segment does not split a path and reads back. Any segment, written in
this way or not, is read in one pass from left to right, so that nothing which an escape stood for
is taken for part of an escape.
-/
theorem segment_reads_back (text : String) :
    '/' ∉ (encodeSegment text).toList ∧ decodeSegment (encodeSegment text) = text ∧
      decodeSegment text = String.ofList (unescape text.toList) :=
  ⟨slash_not_mem_encodeSegment text, decodeSegment_encodeSegment text,
    congrArg String.ofList (replaceAll_escapes text.toList)⟩

example : decodeSegment "%252F%2%2f%" = "%2F%2/%" := by decide +kernel

/-! ## Paths -/

theorem segments_slash_append {route : String} (nonempty : route ≠ "")
    (free : '/' ∉ route.toList) : segments ("/" ++ route) = [route] := by
  have chars : ("/" ++ route).toList = [] ++ '/' :: route.toList := by simp
  have someChars : route.toList ≠ [] := mt String.toList_eq_nil_iff.mp nonempty
  rw [segments, chars, splitOn_append List.not_mem_nil, splitOn_of_not_mem free]
  simp [someChars]

theorem segments_slash_append_slash_append {route part : String} (nonempty : route ≠ "")
    (free : '/' ∉ route.toList) (partNonempty : part ≠ "") (partFree : '/' ∉ part.toList) :
    segments ("/" ++ route ++ "/" ++ part) = [route, part] := by
  have chars : ("/" ++ route ++ "/" ++ part).toList =
      [] ++ '/' :: (route.toList ++ '/' :: part.toList) := by
    simp
  have someChars : route.toList ≠ [] := mt String.toList_eq_nil_iff.mp nonempty
  have someParts : part.toList ≠ [] := mt String.toList_eq_nil_iff.mp partNonempty
  rw [segments, chars, splitOn_append List.not_mem_nil, splitOn_append free,
    splitOn_of_not_mem partFree]
  simp [someChars, someParts]

end MovieCatalogue.Endpoint
