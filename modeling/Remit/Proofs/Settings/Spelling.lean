import Remit.Proofs.Settings.Environment

/-!
Which of several spellings of a name counts. It is the first one, and a merge leaves it the first:
one that stands in the lower object keeps its place, and one of the upper object comes before all
that are new.
-/

namespace Remit.Settings

namespace Fields

variable {fields lower upper : Fields} {key : Key} {name : String} {names : List String}
  {old value : Value} {entry : Key × Value}

def first? (fields : Fields) (name : String) : Option (Key × Value) :=
  fields.find? fun entry => entry.1.matching? [name] = some name

theorem firstMatching?_eq : fields.firstMatching? name = (fields.first? name).map Prod.snd := rfl

theorem first?_cons (entry : Key × Value) :
    first? (entry :: fields) name =
      if entry.1.matching? [name] = some name then some entry else fields.first? name := by
  rw [first?, List.find?_cons]
  split_ifs with own
  · simp [own]
  · simp [own, first?]

theorem matching?_of_first? (found : fields.first? name = some entry) :
    entry.1.matching? [name] = some name := by
  have own := List.find?_some found
  exact of_decide_eq_true own

theorem mem_keys_of_first? (found : fields.first? name = some entry) : entry.1 ∈ fields.keys :=
  List.mem_map_of_mem (List.mem_of_find?_eq_some found)

theorem first?_set_of_ne (found : fields.first? name = some entry) (other : entry.1 ≠ key) :
    (fields.set key value).first? name = some entry := by
  induction fields with
  | nil => cases found
  | cons head rest induction =>
      obtain ⟨front, held⟩ := head
      rw [first?_cons] at found
      rw [Fields.set]
      by_cases own : front.matching? [name] = some name
      · rw [if_pos own] at found
        cases found
        rw [if_neg other, first?_cons, if_pos own]
      · rw [if_neg own] at found
        split_ifs with same
        · rw [first?_cons, if_neg (same ▸ own), found]
        · rw [first?_cons, if_neg own, induction found]

theorem first?_set_self (found : fields.first? name = some (key, old)) :
    (fields.set key value).first? name = some (key, value) := by
  induction fields with
  | nil => cases found
  | cons head rest induction =>
      obtain ⟨front, held⟩ := head
      rw [first?_cons] at found
      rw [Fields.set]
      by_cases own : front.matching? [name] = some name
      · rw [if_pos own] at found
        cases found
        rw [if_pos rfl, first?_cons, if_pos own]
      · have other : front ≠ key := by
          rintro rfl
          rw [if_neg own] at found
          exact own (matching?_of_first? found)
        rw [if_neg own] at found
        rw [if_neg other, first?_cons, if_neg own, induction found]

/-- A key that is no spelling of the name changes nothing. -/
theorem first?_set_foreign (foreign : key.matching? [name] ≠ some name) :
    (fields.set key value).first? name = fields.first? name := by
  induction fields with
  | nil => rw [Fields.set, first?_cons, if_neg foreign]
  | cons head rest induction =>
      rw [Fields.set]
      split_ifs with same
      · rw [first?_cons, first?_cons, if_neg foreign, if_neg (same ▸ foreign)]
      · rw [first?_cons, first?_cons, induction]

theorem first?_set_new (missing : fields.first? name = none)
    (own : key.matching? [name] = some name) :
    (fields.set key value).first? name = some (key, value) := by
  induction fields with
  | nil => rw [Fields.set, first?_cons, if_pos own]
  | cons head rest induction =>
      obtain ⟨front, held⟩ := head
      rw [first?_cons] at missing
      split_ifs at missing with spelled
      have other : front ≠ key := by
        rintro rfl
        exact spelled own
      rw [Fields.set, if_neg other, first?_cons, if_neg spelled, induction missing]

theorem overlay_cons (entry : Key × Value) :
    overlay lower (entry :: upper) = overlay (lower.set entry.1 entry.2) upper := rfl

def OnlyNull (name : String) (fields : Fields) : Prop :=
  ∀ entry ∈ fields, entry.1.matching? [name] = some name → entry.2 = .null

theorem first?_set_null (fields : Fields) (key : Key) :
    (fields.set key .null).first? name = fields.first? name ∨
      (fields.set key .null).first? name = some (key, .null) := by
  by_cases own : key.matching? [name] = some name
  · cases found : fields.first? name with
    | none => exact .inr (first?_set_new found own)
    | some entry =>
        obtain ⟨front, old⟩ := entry
        by_cases same : front = key
        · subst same
          exact .inr (first?_set_self found)
        · exact .inl (first?_set_of_ne found same)
  · exact .inl (first?_set_foreign own)

/-- An object that gives nothing but null for a name leaves the lower one's, or null. -/
theorem OnlyNull.first?_overlay (nulls : upper.OnlyNull name) :
    (overlay lower upper).first? name = lower.first? name ∨
      ∃ key, (overlay lower upper).first? name = some (key, .null) := by
  induction upper generalizing lower with
  | nil => exact .inl rfl
  | cons head rest induction =>
      obtain ⟨headNull, restNull⟩ := List.forall_mem_cons.mp nulls
      rw [overlay_cons]
      obtain kept | null := @induction (lower.set head.1 head.2) restNull
      · rw [kept]
        by_cases own : head.1.matching? [name] = some name
        · rw [headNull own]
          obtain before | null := first?_set_null lower head.1
          · exact .inl before
          · exact .inr ⟨head.1, null⟩
        · exact .inl (first?_set_foreign own)
      · exact .inr null

theorem first?_overlay_lower (distinct : upper.Distinct)
    (found : lower.first? name = some (key, old)) :
    (overlay lower upper).first? name = some (key, (upper.get? key).getD old) := by
  induction upper generalizing lower old with
  | nil => exact found
  | cons head rest induction =>
      obtain ⟨fresh, distinct⟩ := (distinct_cons head).mp distinct
      rw [overlay_cons, get?_cons]
      by_cases same : key = head.1
      · subst same
        rw [induction distinct (first?_set_self found), get?_eq_none_iff.mpr fresh, if_pos rfl]
        rfl
      · rw [induction distinct (first?_set_of_ne found same), if_neg same]

/-- A name that has several spellings has its own one first. -/
def OwnFirst (name : String) (fields : Fields) : Prop :=
  ∀ entry ∈ fields.first? name, entry.1 = .text name

theorem Plain.ownFirst (plain : Plain names fields) (known : name ∈ names) :
    fields.OwnFirst name := by
  intro entry found
  obtain ⟨-, spelled⟩ := Key.matching?_eq_some_iff.mp (matching?_of_first? found)
  exact plain entry.1 (mem_keys_of_first? found) name
    (Key.matching?_eq_some_iff.mpr ⟨known, spelled⟩)

section

variable (lowered : Text.lower name = name)

include lowered

theorem matching?_self : (Key.text name).matching? [name] = some name :=
  Key.matching?_eq_some_iff.mpr ⟨List.mem_singleton_self name, name, rfl, lowered⟩

theorem OwnFirst.first?_of_get? (own : fields.OwnFirst name)
    (found : fields.get? (.text name) = some value) :
    fields.first? name = some (.text name, value) := by
  induction fields with
  | nil => cases found
  | cons head rest induction =>
      obtain ⟨front, held⟩ := head
      rw [OwnFirst, first?_cons] at own
      rw [get?_cons] at found
      rw [first?_cons]
      split_ifs at own ⊢ with spelled
      · obtain rfl : front = .text name := own _ rfl
        rw [if_pos rfl] at found
        cases found
        rfl
      · have different : .text name ≠ front := by
          rintro rfl
          exact spelled (matching?_self lowered)
        rw [if_neg different] at found
        exact induction own found

/-- Above an object that has a name in its own spelling first, the first spelling stays the
first. -/
theorem first?_overlay_upper (distinct : upper.Distinct) (own : lower.OwnFirst name)
    (found : upper.first? name = some (.text name, value)) :
    (overlay lower upper).first? name = some (.text name, value) := by
  induction upper generalizing lower with
  | nil => cases found
  | cons head rest induction =>
      obtain ⟨fresh, restDistinct⟩ := (distinct_cons head).mp distinct
      rw [first?_cons] at found
      rw [overlay_cons]
      split_ifs at found with spelled
      · cases found
        have entered : (lower.set (.text name) value).first? name = some (.text name, value) := by
          cases before : lower.first? name with
          | none => exact first?_set_new before (matching?_self lowered)
          | some entry =>
              obtain ⟨key, old⟩ := entry
              obtain rfl : key = .text name := own _ before
              exact first?_set_self before
        change (overlay (lower.set (.text name) value) rest).first? name = _
        rw [first?_overlay_lower restDistinct entered, get?_eq_none_iff.mpr fresh]
        rfl
      · refine induction restDistinct ?_ found
        rwa [OwnFirst, first?_set_foreign spelled]

end

end Fields

namespace Environment

variable {fields : Fields} {names : List String} {key : Key} {name : String}

/-- The key that another one is taken for. -/
def folded? (names : List String) (key : Key) : Key :=
  (key.matching? names).elim key .text

theorem foldKeys_eq (fields : Fields) (names : List String) :
    foldKeys fields names =
      fields.foldl (fun (folded : Fields) entry => folded.set (folded? names entry.1) entry.2)
        [] := rfl

theorem plain_foldKeys (lowered : ∀ name ∈ names, Text.lower name = name) (fields : Fields) :
    Fields.Plain names (foldKeys fields names) := by
  rw [foldKeys_eq]
  refine List.foldlRecOn (motive := Fields.Plain names) _ _ ?_ ?_
  · exact fun key present => absurd present List.not_mem_nil
  · intro folded plain entry _ key present name found
    obtain rfl | before := Fields.mem_keys_set.mp present
    · unfold folded? at found ⊢
      cases spelled : entry.1.matching? names with
      | none =>
          rw [spelled] at found
          exact absurd (spelled.symm.trans found) (by simp)
      | some other =>
          rw [spelled] at found
          obtain ⟨known, -⟩ := Key.matching?_eq_some_iff.mp spelled
          exact congrArg Key.text (Option.some.inj
            ((Fields.matching?_name lowered known).symm.trans found))
    · exact plain key before name found

theorem mem_keys_foldKeys (present : key ∈ fields.keys) :
    folded? names key ∈ (foldKeys fields names).keys := by
  obtain ⟨entry, member, rfl⟩ := List.mem_map.mp present
  obtain ⟨before, after, rfl⟩ := List.append_of_mem member
  rw [foldKeys_eq, List.foldl_append, List.foldl_cons]
  -- Once it is entered a key stays.
  refine List.foldlRecOn
    (motive := fun fields : Fields => folded? names entry.1 ∈ fields.keys) _ _ ?_ ?_
  · exact Fields.mem_keys_set.mpr (.inl rfl)
  · intro folded entered later _
    exact Fields.mem_keys_set.mpr (.inr entered)

end Environment

end Remit.Settings
