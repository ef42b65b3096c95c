import Mathlib.Data.List.Nodup
import MovieCatalogue.Fields

/-!
Contract: laws of members under names.

Owns: which names a replacement, a merge and a collapse leave behind; what is
looked up after them; and the two facts by which rows are compared: members with
different names collapse to themselves, and members with different names are
determined by their names and what is looked up under each.
Does not own: what the values are.
-/

namespace MovieCatalogue.Fields

variable {α : Type}

/-! ## Names -/

@[simp] theorem names_cons (name : String) (value : α) (members : Fields α) :
    names ((name, value) :: members) = name :: names members := rfl

@[simp] theorem names_reverse (members : Fields α) :
    names members.reverse = members.names.reverse :=
  List.map_reverse

theorem put_of_not_mem {members : Fields α} {name : String} (value : α)
    (fresh : name ∉ members.names) : members.put name value = members ++ [(name, value)] := by
  induction members with
  | nil => rfl
  | cons head tail inductionHypothesis =>
      obtain ⟨other, held⟩ := head
      simp only [names_cons, List.mem_cons, not_or] at fresh
      simp [put, Ne.symm fresh.1, inductionHypothesis fresh.2]

theorem names_put_of_mem {members : Fields α} {name : String} (value : α)
    (present : name ∈ members.names) : (members.put name value).names = members.names := by
  induction members with
  | nil => simp [names] at present
  | cons head tail inductionHypothesis =>
      obtain ⟨other, held⟩ := head
      by_cases same : other = name
      · simp [put, same]
      · have later : name ∈ names tail := by simpa [Ne.symm same] using present
        simp [put, same, inductionHypothesis later]

theorem names_put (members : Fields α) (name : String) (value : α) :
    (members.put name value).names =
      if name ∈ members.names then members.names else members.names ++ [name] := by
  split
  case isTrue present => exact names_put_of_mem value present
  case isFalse fresh => simp [put_of_not_mem value fresh, names]

theorem nodup_names_put {members : Fields α} (distinct : members.names.Nodup) (name : String)
    (value : α) : (members.put name value).names.Nodup := by
  rw [names_put]
  split
  case isTrue present => exact distinct
  case isFalse fresh => simpa using distinct.concat fresh

theorem merge_cons (members : Fields α) (name : String) (value : α) (changes : Fields α) :
    members.merge ((name, value) :: changes) = (members.put name value).merge changes := rfl

theorem nodup_names_merge {members : Fields α} (distinct : members.names.Nodup)
    (changes : Fields α) : (members.merge changes).names.Nodup := by
  induction changes generalizing members with
  | nil => exact distinct
  | cons change changes inductionHypothesis =>
      exact inductionHypothesis (nodup_names_put distinct change.1 change.2)

theorem nodup_names_collapse (members : Fields α) : (collapse members).names.Nodup := by
  have distinct : (names ([] : Fields α)).Nodup := List.nodup_nil
  exact nodup_names_merge distinct members

/-- The names of a merge hang on the names that it is made of only. -/
theorem names_merge_congr {first second changes others : Fields α}
    (sameStart : first.names = second.names) (sameChanges : changes.names = others.names) :
    (first.merge changes).names = (second.merge others).names := by
  induction changes generalizing first second others with
  | nil =>
      cases others with
      | nil => exact sameStart
      | cons other others => simp [names] at sameChanges
  | cons change changes inductionHypothesis =>
      cases others with
      | nil => simp [names] at sameChanges
      | cons other others =>
          obtain ⟨name, value⟩ := change
          obtain ⟨otherName, otherValue⟩ := other
          simp only [names_cons, List.cons.injEq] at sameChanges
          obtain ⟨rfl, sameRest⟩ := sameChanges
          have samePut : (first.put name value).names = (second.put name otherValue).names := by
            rw [names_put, names_put, sameStart]
          rw [merge_cons, merge_cons]
          exact inductionHypothesis samePut sameRest

theorem mem_names_merge {members changes : Fields α} {name : String} :
    name ∈ (members.merge changes).names ↔ name ∈ members.names ∨ name ∈ changes.names := by
  induction changes generalizing members with
  | nil => simp [merge, names]
  | cons change changes inductionHypothesis =>
      obtain ⟨other, value⟩ := change
      rw [merge_cons, inductionHypothesis, names_put, names_cons, List.mem_cons]
      by_cases present : other ∈ members.names
      · rw [if_pos present]
        constructor
        · rintro (held | later)
          · exact .inl held
          · exact .inr (.inr later)
        · rintro (held | rfl | later)
          · exact .inl held
          · exact .inl present
          · exact .inr later
      · rw [if_neg present, List.mem_append, List.mem_singleton, or_assoc]

theorem mem_names_collapse {members : Fields α} {name : String} :
    name ∈ (collapse members).names ↔ name ∈ members.names := by
  rw [collapse, mem_names_merge]
  simp [names]

/-! ## What is kept -/

theorem eq_or_mem_of_mem_put {members : Fields α} {name : String} {value : α} {member : String × α}
    (inPut : member ∈ members.put name value) : member = (name, value) ∨ member ∈ members := by
  induction members with
  | nil => exact .inl (List.mem_singleton.mp inPut)
  | cons head tail inductionHypothesis =>
      obtain ⟨other, held⟩ := head
      by_cases same : other = name
      · simp only [put, if_pos same, List.mem_cons] at inPut
        exact inPut.imp (fun here => same ▸ here) (List.mem_cons_of_mem _)
      · simp only [put, if_neg same, List.mem_cons] at inPut
        rcases inPut with rfl | later
        · exact .inr List.mem_cons_self
        · exact (inductionHypothesis later).imp_right (List.mem_cons_of_mem _)

theorem mem_of_mem_merge {members changes : Fields α} {member : String × α}
    (inMerge : member ∈ members.merge changes) : member ∈ members ∨ member ∈ changes := by
  induction changes generalizing members with
  | nil => exact .inl inMerge
  | cons change changes inductionHypothesis =>
      rw [merge_cons] at inMerge
      rcases inductionHypothesis inMerge with inPut | later
      · rcases eq_or_mem_of_mem_put inPut with rfl | old
        · exact .inr List.mem_cons_self
        · exact .inl old
      · exact .inr (List.mem_cons_of_mem _ later)

theorem mem_of_mem_collapse {members : Fields α} {member : String × α}
    (inCollapse : member ∈ collapse members) : member ∈ members :=
  (mem_of_mem_merge inCollapse).resolve_left (List.not_mem_nil)

/-! ## Look-up -/

theorem get?_eq_none_iff {members : Fields α} {name : String} :
    members.get? name = none ↔ name ∉ members.names := by
  induction members with
  | nil => simp [get?, names]
  | cons head tail inductionHypothesis =>
      obtain ⟨other, held⟩ := head
      by_cases same : other = name
      · simp [get?, same]
      · simp [get?, same, inductionHypothesis, Ne.symm same]

theorem mem_of_get?_eq_some {members : Fields α} {name : String} {value : α}
    (found : members.get? name = some value) : (name, value) ∈ members := by
  induction members with
  | nil => simp [get?] at found
  | cons head tail inductionHypothesis =>
      obtain ⟨other, held⟩ := head
      by_cases same : other = name
      · simp_all [get?]
      · simp only [get?, if_neg same] at found
        exact List.mem_cons_of_mem _ (inductionHypothesis found)

theorem get?_eq_some_of_mem {members : Fields α} (distinct : members.names.Nodup) {name : String}
    {value : α} (member : (name, value) ∈ members) : members.get? name = some value := by
  induction members with
  | nil => simp at member
  | cons head tail inductionHypothesis =>
      obtain ⟨other, held⟩ := head
      rw [names_cons, List.nodup_cons] at distinct
      rcases List.mem_cons.mp member with here | later
      · cases here
        simp [get?]
      · have inTail : name ∈ names tail := List.mem_map.mpr ⟨_, later, rfl⟩
        have different : other ≠ name := fun same => distinct.1 (same ▸ inTail)
        simp [get?, different, inductionHypothesis distinct.2 later]

theorem get?_append (first second : Fields α) (name : String) :
    get? name (first ++ second) = (first.get? name).or (second.get? name) := by
  induction first with
  | nil => simp [get?]
  | cons head tail inductionHypothesis =>
      obtain ⟨other, held⟩ := head
      by_cases same : other = name
      · simp [get?, same]
      · simp [get?, same, inductionHypothesis]

/-- A merge is looked up in the changes first, where the last one of a name counts. -/
theorem get?_merge (members changes : Fields α) (name : String) :
    (members.merge changes).get? name = (get? name changes.reverse).or (members.get? name) := by
  induction changes generalizing members with
  | nil => simp [merge, get?]
  | cons change changes inductionHypothesis =>
      obtain ⟨other, value⟩ := change
      rw [merge_cons, inductionHypothesis, List.reverse_cons, get?_append, Option.or_assoc]
      congr 1
      by_cases same : other = name
      · simp [get?, same, get?_put_self]
      · simp [get?, same, get?_put_of_ne members value (Ne.symm same)]

theorem get?_collapse (members : Fields α) (name : String) :
    (collapse members).get? name = get? name members.reverse := by
  simp [collapse, get?_merge, get?]

/-! ## Members with different names -/

theorem merge_eq_append {members changes : Fields α}
    (distinct : (members.names ++ changes.names).Nodup) :
    members.merge changes = members ++ changes := by
  induction changes generalizing members with
  | nil => simp [merge]
  | cons change changes inductionHypothesis =>
      obtain ⟨name, value⟩ := change
      rw [names_cons, List.nodup_middle, List.nodup_cons, List.mem_append, not_or] at distinct
      have fresh : name ∉ members.names := distinct.1.1
      have stillDistinct : (names (members ++ [(name, value)]) ++ names changes).Nodup := by
        simpa [names] using List.nodup_middle.mpr
          (List.nodup_cons.mpr ⟨fun member => (List.mem_append.mp member).elim
            distinct.1.1 distinct.1.2, distinct.2⟩)
      rw [merge_cons, put_of_not_mem value fresh, inductionHypothesis stillDistinct]
      simp

/-- Members with different names collapse to themselves. -/
theorem collapse_eq_self {members : Fields α} (distinct : members.names.Nodup) :
    collapse members = members := by
  have distinctAll : (names ([] : Fields α) ++ names members).Nodup := distinct
  rw [collapse, merge_eq_append distinctAll, List.nil_append]

/-- Members with different names are determined by their names and what is found under each. -/
theorem eq_of_names_eq {first second : Fields α} (distinct : first.names.Nodup)
    (sameNames : first.names = second.names)
    (sameValues : ∀ name, first.get? name = second.get? name) : first = second := by
  induction first generalizing second with
  | nil =>
      cases second with
      | nil => rfl
      | cons head tail => simp [names] at sameNames
  | cons head tail inductionHypothesis =>
      cases second with
      | nil => simp [names] at sameNames
      | cons other others =>
          obtain ⟨name, value⟩ := head
          obtain ⟨otherName, otherValue⟩ := other
          simp only [names_cons, List.cons.injEq] at sameNames
          obtain ⟨rfl, tailNames⟩ := sameNames
          rw [names_cons, List.nodup_cons] at distinct
          have sameHead : value = otherValue := by simpa [get?] using sameValues name
          have sameTail : tail = others := by
            refine inductionHypothesis distinct.2 tailNames fun wanted => ?_
            by_cases here : name = wanted
            · subst here
              rw [get?_eq_none_iff.mpr distinct.1, get?_eq_none_iff.mpr (tailNames ▸ distinct.1)]
            · simpa [get?, here] using sameValues wanted
          rw [sameHead, sameTail]

end MovieCatalogue.Fields
