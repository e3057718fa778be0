import Mathlib.Data.List.Nodup
import Remit.Settings.Load

/-!
Objects as finite maps. All the ways in which one object goes over another enter its values one
after another, and differ only in what a value does to the one that it meets.
-/

namespace Remit.Settings

namespace Fields

variable {fields lower upper : Fields} {key other : Key} {value : Value}

def keys (fields : Fields) : List Key :=
  fields.map Prod.fst

def Distinct (fields : Fields) : Prop :=
  fields.keys.Nodup

instance : Decidable (Distinct fields) :=
  inferInstanceAs (Decidable fields.keys.Nodup)

@[simp] theorem keys_nil : keys [] = [] := rfl

@[simp] theorem keys_cons (entry : Key × Value) :
    keys (entry :: fields) = entry.1 :: fields.keys := rfl

@[simp] theorem keys_append : keys (lower ++ upper) = lower.keys ++ upper.keys :=
  List.map_append

theorem distinct_nil : Distinct [] :=
  List.nodup_nil

theorem distinct_cons (entry : Key × Value) :
    Distinct (entry :: fields) ↔ entry.1 ∉ fields.keys ∧ fields.Distinct :=
  List.nodup_cons

@[simp] theorem get?_nil : get? [] key = none := rfl

theorem get?_cons (entry : Key × Value) :
    get? (entry :: fields) key = if key = entry.1 then some entry.2 else get? fields key := by
  obtain ⟨found, value⟩ := entry
  simp only [get?, List.lookup_cons]
  cases same : key == found with
  | true => rw [if_pos (eq_of_beq same)]
  | false => rw [if_neg (ne_of_beq_false same)]

theorem get?_eq_none_iff : get? fields key = none ↔ key ∉ fields.keys := by
  induction fields with
  | nil => simp [keys]
  | cons entry rest induction =>
      rw [get?_cons, keys_cons, List.mem_cons, not_or, ← induction]
      split_ifs with same <;> simp [same]

theorem mem_of_get? (found : get? fields key = some value) : (key, value) ∈ fields := by
  induction fields with
  | nil => cases found
  | cons entry rest induction =>
      rw [get?_cons] at found
      split_ifs at found with same
      · cases found
        subst same
        exact List.mem_cons_self
      · exact List.mem_cons_of_mem _ (induction found)

theorem get?_append : get? (lower ++ upper) key = (get? lower key).or (get? upper key) := by
  induction lower with
  | nil => rfl
  | cons entry rest induction =>
      rw [List.cons_append, get?_cons, get?_cons, induction]
      split_ifs <;> rfl

theorem get?_set :
    get? (set fields key value) other = if other = key then some value else get? fields other := by
  split_ifs with same
  · rw [same, get?_set_self]
  · exact get?_set_of_ne fields value same

theorem mem_keys_set :
    other ∈ (set fields key value).keys ↔ other = key ∨ other ∈ fields.keys := by
  rw [← not_iff_not, ← get?_eq_none_iff, get?_set, not_or, ← get?_eq_none_iff]
  split_ifs with same <;> simp [same]

theorem Distinct.set (distinct : fields.Distinct) : (fields.set key value).Distinct := by
  induction fields with
  | nil => exact List.nodup_singleton key
  | cons entry rest induction =>
      obtain ⟨fresh, distinct⟩ := (distinct_cons entry).mp distinct
      rw [Fields.set]
      split_ifs with same
      · subst same
        exact (distinct_cons _).mpr ⟨fresh, distinct⟩
      · refine (distinct_cons _).mpr ⟨?_, induction distinct⟩
        rw [mem_keys_set, not_or]
        exact ⟨same, fresh⟩

section

variable {select : Key → Bool}

def only (select : Key → Bool) (fields : Fields) : Fields :=
  fields.filter fun entry => select entry.1

theorem only_cons (entry : Key × Value) :
    only select (entry :: fields) =
      if select entry.1 then entry :: fields.only select else fields.only select :=
  List.filter_cons

theorem get?_only :
    get? (fields.only select) key = if select key then get? fields key else none := by
  induction fields with
  | nil => simp [only]
  | cons entry rest induction =>
      rw [only_cons, get?_cons]
      by_cases same : key = entry.1
      · subst same
        cases selected : select entry.1 with
        | true => simp [get?_cons]
        | false => simp [induction, selected]
      · rw [if_neg same, ← induction]
        cases select entry.1 with
        | true => simp [get?_cons, same]
        | false => rfl

theorem Distinct.only (distinct : fields.Distinct) : (fields.only select).Distinct :=
  distinct.sublist (List.filter_sublist.map _)

theorem only_set : (set fields key value).only select =
    if select key then set (fields.only select) key value else fields.only select := by
  induction fields with
  | nil => exact only_cons (key, value)
  | cons entry rest induction =>
      obtain ⟨found, old⟩ := entry
      rw [Fields.set, only_cons]
      by_cases same : found = key
      · subst same
        rw [if_pos rfl, only_cons]
        split_ifs
        · rw [Fields.set, if_pos rfl]
        · rfl
      · rw [if_neg same, only_cons, induction]
        split_ifs
        · rw [Fields.set, if_neg same]
        · rfl
        · rfl
        · rfl

end

/-- Enters values one after another, each with regard to the value that it meets. -/
def enter (meet : Option Value → Value → Value) (lower upper : Fields) : Fields :=
  upper.foldl (fun fields entry => set fields entry.1 (meet (get? fields entry.1) entry.2)) lower

section

variable {meet : Option Value → Value → Value}

theorem Distinct.enter (distinct : lower.Distinct) : (enter meet lower upper).Distinct := by
  induction upper generalizing lower with
  | nil => exact distinct
  | cons entry rest induction => exact induction distinct.set

theorem get?_enter (distinct : upper.Distinct) :
    get? (enter meet lower upper) key =
      ((get? upper key).map (meet (get? lower key))).or (get? lower key) := by
  induction upper generalizing lower with
  | nil => rfl
  | cons entry rest induction =>
      -- The key does not come again, so what it meets is still what stood there at first.
      obtain ⟨fresh, distinct⟩ := (distinct_cons entry).mp distinct
      rw [enter, List.foldl_cons, ← enter, induction distinct, get?_set, get?_cons]
      split_ifs with same
      · subst same
        rw [get?_eq_none_iff.mpr fresh]
        rfl
      · rfl

theorem keys_enter_subset :
    ∀ key ∈ (enter meet lower upper).keys, key ∈ lower.keys ∨ key ∈ upper.keys := by
  induction upper generalizing lower with
  | nil => exact fun key present => .inl present
  | cons entry rest induction =>
      intro key present
      rw [keys_cons, List.mem_cons]
      rcases induction key present with before | after
      · rcases mem_keys_set.mp before with new | old
        · exact .inr (.inl new)
        · exact .inl old
      · exact .inr (.inr after)

theorem set_of_fresh (fresh : key ∉ fields.keys) :
    set fields key value = fields ++ [(key, value)] := by
  induction fields with
  | nil => rfl
  | cons entry rest induction =>
      rw [keys_cons, List.mem_cons, not_or] at fresh
      rw [Fields.set, if_neg (Ne.symm fresh.1), induction fresh.2, List.cons_append]

theorem enter_fresh (new : ∀ value, meet none value = value)
    (distinct : Distinct (lower ++ upper)) : enter meet lower upper = lower ++ upper := by
  induction upper generalizing lower with
  | nil => exact (List.append_nil lower).symm
  | cons entry rest induction =>
      have fresh : entry.1 ∉ lower.keys := by
        rw [Distinct, keys_append, List.nodup_append'] at distinct
        exact fun member => distinct.2.2 member List.mem_cons_self
      have whole : lower ++ entry :: rest = (lower ++ [entry]) ++ rest := by simp
      rw [enter, List.foldl_cons, ← enter, get?_eq_none_iff.mpr fresh, new, set_of_fresh fresh,
        whole]
      exact induction (whole ▸ distinct)

theorem only_enter {select : Key → Bool} :
    (enter meet lower upper).only select = enter meet (lower.only select) (upper.only select) := by
  induction upper generalizing lower with
  | nil => rfl
  | cons entry rest induction =>
      rw [enter, List.foldl_cons, ← enter, induction, only_set, only_cons]
      cases selected : select entry.1 with
      | true =>
          rw [if_pos rfl, if_pos rfl, enter, enter, List.foldl_cons, get?_only, selected,
            if_pos rfl]
      | false =>
          rw [if_neg Bool.false_ne_true, if_neg Bool.false_ne_true]

end

theorem overlay_eq_enter : overlay lower upper = enter (fun _ value => value) lower upper := rfl

theorem Distinct.overlay (distinct : lower.Distinct) : (overlay lower upper).Distinct :=
  overlay_eq_enter ▸ distinct.enter

/-- What a value makes of the one below it, if there is one. -/
def merged (below : Option Value) (value : Value) : Value :=
  below.elim value (·.merge value)

theorem mergeOver_eq_enter : mergeOver lower upper = enter merged lower upper := by
  rw [mergeOver, enter]
  congr
  funext fields ⟨key, value⟩
  cases found : get? fields key <;> simp [found, merged]

theorem Distinct.mergeOver (distinct : lower.Distinct) : (mergeOver lower upper).Distinct :=
  mergeOver_eq_enter ▸ distinct.enter

/-- What is left of a value of a file under the one that is given. -/
def filled (given : Option Value) (value : Value) : Value :=
  match given with
  | none => value
  | some .null => value
  | some (.object fields) =>
      match value with
      | .object below => .object (overlay below fields)
      | _ => .object fields
  | some given => given

theorem set_get? (found : get? fields key = some value) : set fields key value = fields := by
  induction fields with
  | nil => cases found
  | cons entry rest induction =>
      obtain ⟨present, old⟩ := entry
      rw [get?_cons] at found
      rw [Fields.set]
      by_cases same : key = present
      · rw [if_pos same] at found
        cases found
        rw [if_pos same.symm, same]
      · rw [if_neg same] at found
        rw [if_neg (Ne.symm same), induction found]

theorem addFileKey_eq_set :
    addFileKey fields key value = set fields key (filled (get? fields key) value) := by
  unfold addFileKey
  cases found : get? fields key with
  | none => rfl
  | some given =>
      cases given with
      | null => rfl
      | object given =>
          cases value with
          | object below => rfl
          | _ => exact (set_get? found).symm
      | _ => exact (set_get? found).symm

end Fields

def members : Option Value → Fields
  | some (.object fields) => fields
  | _ => []

/-! ### Spellings -/

variable {key : Key} {name : String} {names : List String} {fields : Fields}

theorem Key.matching?_eq_some_iff :
    key.matching? names = some name ↔
      name ∈ names ∧ ∃ spelling, key = .text spelling ∧ Text.lower spelling = name := by
  cases key with
  | text spelling =>
      rw [Key.matching?]
      constructor
      · intro found
        have same : name = Text.lower spelling := by simpa using List.find?_some found
        exact ⟨List.mem_of_find?_eq_some found, spelling, rfl, same.symm⟩
      · rintro ⟨known, spelling, ⟨⟩, rfl⟩
        cases found : names.find? (· = Text.lower spelling) with
        | none => exact absurd (decide_eq_true rfl) (List.find?_eq_none.mp found _ known)
        | some name => simpa using List.find?_some found
  | _ => simp [Key.matching?]

namespace Fields

/-- No key is one of the names in another spelling. -/
def Plain (names : List String) (fields : Fields) : Prop :=
  ∀ key ∈ fields.keys, ∀ name, key.matching? names = some name → key = .text name

instance (names : List String) (fields : Fields) : Decidable (Plain names fields) :=
  inferInstanceAs
    (Decidable (∀ key ∈ fields.keys, ∀ name ∈ key.matching? names, key = .text name))

def isUnknown (names : List String) (key : Key) : Bool :=
  (key.matching? names).isNone

theorem firstMatching?_cons (entry : Key × Value) :
    firstMatching? (entry :: fields) name =
      if entry.1.matching? [name] = some name then some entry.2
      else fields.firstMatching? name := by
  rw [firstMatching?, List.find?_cons]
  split_ifs with found
  · simp [found]
  · simp [found, firstMatching?]

theorem get?_filterMap_names (values : String → Option Value) :
    get? (names.filterMap fun name => (values name).map (Key.text name, ·)) (.text name) =
      if name ∈ names then values name else none := by
  induction names with
  | nil => rfl
  | cons head rest induction =>
      rw [List.filterMap_cons]
      by_cases same : name = head
      · subst same
        cases present : values name with
        | none => simpa [present] using induction
        | some value => simp [get?_cons]
      · cases present : values head with
        | none => simpa [same] using induction
        | some value => simpa [get?_cons, same] using induction

theorem named_eq : fields.named names =
    names.filterMap (fun name => (fields.firstMatching? name).map (Key.text name, ·)) ++
      fields.only (isUnknown names) := rfl

section

variable (lowered : ∀ name ∈ names, Text.lower name = name)

include lowered

theorem matching?_name (known : name ∈ names) : (Key.text name).matching? names = some name :=
  Key.matching?_eq_some_iff.mpr ⟨known, name, rfl, lowered name known⟩

theorem get?_named (known : name ∈ names) :
    get? (fields.named names) (.text name) = fields.firstMatching? name := by
  have unknown : get? (fields.only (isUnknown names)) (.text name) = none := by
    rw [get?_only, isUnknown, matching?_name lowered known]
    rfl
  rw [named_eq, get?_append, get?_filterMap_names, if_pos known, unknown, Option.or_none]

theorem isUnknown_named (values : String → Option Value) :
    ∀ entry ∈ names.filterMap fun name => (values name).map (Key.text name, ·),
      isUnknown names entry.1 = false := by
  intro entry member
  obtain ⟨name, known, found⟩ := List.mem_filterMap.mp member
  obtain ⟨value, -, rfl⟩ := Option.map_eq_some_iff.mp found
  simp [isUnknown, matching?_name lowered known]

theorem Distinct.named (nodup : names.Nodup) (distinct : fields.Distinct) :
    (fields.named names).Distinct := by
  rw [Distinct, named_eq, keys_append, List.nodup_append']
  refine ⟨?_, distinct.only, ?_⟩
  · rw [keys, List.map_filterMap]
    apply nodup.filterMap
    intro name name' key first second
    simp only [Option.map_map, Option.mem_def, Option.map_eq_some_iff, Function.comp_apply]
      at first second
    obtain ⟨-, -, rfl⟩ := first
    obtain ⟨-, -, same⟩ := second
    exact (Key.text.inj same).symm
  · intro key front back
    obtain ⟨entry, known, rfl⟩ := List.mem_map.mp front
    obtain ⟨entry', left, same⟩ := List.mem_map.mp back
    have unknown := (List.mem_filter.mp left).2
    rw [same, isUnknown_named lowered _ entry known] at unknown
    cases unknown

theorem Plain.firstMatching? (plain : Plain names fields) (known : name ∈ names) :
    fields.firstMatching? name = get? fields (.text name) := by
  induction fields with
  | nil => rfl
  | cons entry rest induction =>
      have tail : Plain names rest := fun key member => plain key (List.mem_cons_of_mem _ member)
      have head : entry.1.matching? [name] = some name ↔ .text name = entry.1 := by
        rw [Key.matching?_eq_some_iff]
        constructor
        · rintro ⟨-, spelled⟩
          exact (plain entry.1 List.mem_cons_self name
            (Key.matching?_eq_some_iff.mpr ⟨known, spelled⟩)).symm
        · intro same
          exact ⟨List.mem_singleton_self name, name, same.symm, lowered name known⟩
      rw [firstMatching?_cons, get?_cons, induction tail]
      simp only [head]

end

end Fields

end Remit.Settings
