import Remit.Proofs.Settings.Fields
import Remit.Proofs.Text.Lower

/-!
What the environment gives to the log settings: the object that its variable holds, under the
variables of single keys. Names are in lower case before they become keys, so these keys have one
spelling.
-/

namespace Remit.Settings

open Fields (Distinct Plain)

namespace Json

theorem distinct_members? {fuel : Nat} {before fields : Fields} {text rest : List Char}
    (distinct : before.Distinct) (read : members? fuel before text = some (fields, rest)) :
    fields.Distinct := by
  induction fuel generalizing before text with
  | zero => cases read
  | succ fuel induction =>
      unfold members? at read
      split at read
      case h_1 => cases ‹_ + 1 = 0›
      case h_3 => cases read
      case h_2 same =>
        cases same
        obtain ⟨⟨key, afterKey⟩, -, read⟩ := Option.bind_eq_some_iff.mp read
        dsimp only at read
        split at read
        · obtain ⟨⟨value, afterValue⟩, -, read⟩ := Option.bind_eq_some_iff.mp read
          dsimp only at read
          split at read
          · exact induction distinct.set read
          · cases read
            exact distinct.set
          · cases read
        · cases read

theorem ne_object_literal? {text rest : List Char} {fields : Fields} :
    literal? text ≠ some (.object fields, rest) := by
  intro found
  obtain ⟨⟨word, value⟩, member, found⟩ := List.exists_of_findSome?_eq_some found
  obtain ⟨_, _, same⟩ := Option.map_eq_some_iff.mp found
  cases same
  simp [literals] at member

theorem ne_object_number? {negative : Bool} {text rest : List Char} {fields : Fields} :
    number? negative text ≠ some (.object fields, rest) := by
  intro found
  simp only [number?] at found
  split at found
  · cases found
  · split at found
    · cases found
    · cases found

theorem distinct_value? {fuel : Nat} {fields : Fields} {text rest : List Char}
    (read : value? fuel text = some (.object fields, rest)) : fields.Distinct := by
  cases fuel with
  | zero => cases read
  | succ fuel =>
      unfold value? at read
      split at read
      case h_1 found literal =>
        cases read
        exact absurd literal ne_object_literal?
      case h_2 =>
        split at read
        case h_1 =>
          obtain ⟨_, _, same⟩ := Option.map_eq_some_iff.mp read
          cases same
        case h_2 =>
          split at read
          · cases read
          · obtain ⟨_, _, same⟩ := Option.map_eq_some_iff.mp read
            cases same
        case h_3 =>
          split at read
          · cases read
            exact Fields.distinct_nil
          · obtain ⟨found, members, same⟩ := Option.map_eq_some_iff.mp read
            cases same
            exact distinct_members? Fields.distinct_nil members
        case h_4 => exact absurd read ne_object_number?
        case h_5 => exact absurd read ne_object_number?

theorem distinct_parse? {text : String} {fields : Fields}
    (parsed : parse? text = some (.object fields)) : fields.Distinct := by
  obtain ⟨⟨value, rest⟩, read, done⟩ := Option.bind_eq_some_iff.mp parsed
  dsimp only at done
  split_ifs at done
  cases done
  exact distinct_value? read

end Json

namespace Environment

variable {env : Environment} {key name value text : String} {fields : Fields}

def addFolded (entries : List (String × String)) (entry : String × String) :
    List (String × String) :=
  let name := Text.lower entry.1
  if entries.any (·.1 = name) then
    entries.map fun old => if old.1 = name then (name, entry.2) else old
  else entries ++ [(name, entry.2)]

theorem names_addFolded (entries : List (String × String)) (entry : String × String) :
    (addFolded entries entry).map Prod.fst =
      if Text.lower entry.1 ∈ entries.map Prod.fst then entries.map Prod.fst
      else entries.map Prod.fst ++ [Text.lower entry.1] := by
  have present : entries.any (·.1 = Text.lower entry.1) ↔
      Text.lower entry.1 ∈ entries.map Prod.fst := by
    rw [List.any_eq_true, List.mem_map]
    simp only [decide_eq_true_eq]
  simp only [addFolded, present]
  split_ifs
  · rw [List.map_map]
    apply List.map_congr_left
    intro old _
    rw [Function.comp_apply]
    split_ifs with same
    · exact same.symm
    · rfl
  · rw [List.map_append]
    rfl

def Folded (entries : List (String × String)) : Prop :=
  (entries.map Prod.fst).Nodup ∧
    ∀ name ∈ entries.map Prod.fst, ∃ spelling, Text.lower spelling = name

theorem Folded.addFolded {entries : List (String × String)} (folded : Folded entries)
    (entry : String × String) : Folded (addFolded entries entry) := by
  obtain ⟨nodup, lowered⟩ := folded
  rw [Folded, names_addFolded]
  split_ifs with present
  · exact ⟨nodup, lowered⟩
  · refine ⟨List.nodup_append_comm.mp (List.nodup_cons.mpr ⟨present, nodup⟩), ?_⟩
    rw [List.forall_mem_append, List.forall_mem_singleton]
    exact ⟨lowered, entry.1, rfl⟩

theorem folded_folded (env : Environment) : Folded env.folded := by
  have run : ∀ entries, Folded entries → Folded (env.foldl addFolded entries) := by
    induction env with
    | nil => exact fun _ folded => folded
    | cons entry rest induction => exact fun _ folded => induction _ (folded.addFolded entry)
  exact run [] ⟨List.nodup_nil, List.forall_mem_nil _⟩

theorem splitKey_cons {head : Char} {rest : List Char}
    (different : ∀ rest', head = '_' → rest = '_' :: rest' → False) :
    splitKey (head :: rest) = (head :: (splitKey rest).1, (splitKey rest).2) := by
  rw [splitKey.eq_3 _ _ different]

theorem mem_splitKey {text : List Char} {c : Char} (member : c ∈ (splitKey text).1) :
    c ∈ text := by
  induction text using splitKey.induct with
  | case1 => exact member
  | case2 rest key inner split induction => cases member
  | case3 head rest different key inner split induction =>
      rw [splitKey_cons different, List.mem_cons] at member
      cases member with
      | inl same => exact List.mem_cons.mpr (.inl same)
      | inr later => exact List.mem_cons_of_mem _ (induction later)

theorem splitKey_whole {text : List Char} (whole : (splitKey text).2 = []) :
    (splitKey text).1 = text := by
  induction text using splitKey.induct with
  | case1 => rfl
  | case2 rest key inner split induction => cases whole
  | case3 head rest different key inner split induction =>
      rw [splitKey_cons different] at whole ⊢
      rw [induction whole]

def addVariable (fields : Fields) (entry : String × String) : Fields :=
  if logKeyStart.toList.isPrefixOf entry.1.toList then
    addLogKey fields (String.ofList (entry.1.toList.drop logKeyStart.length)) entry.2
  else fields

theorem logKeys_eq (env : Environment) : env.logKeys = env.folded.foldl addVariable [] := rfl

theorem addVariable_of_start (fields : Fields) (key value : String) :
    addVariable fields (logKeyStart ++ key, value) = addLogKey fields key value := by
  have starts : logKeyStart.toList.isPrefixOf (logKeyStart ++ key).toList := by
    rw [String.toList_append, List.isPrefixOf_iff_prefix]
    exact List.prefix_append _ _
  have rest : (logKeyStart ++ key).toList.drop logKeyStart.length = key.toList := by
    rw [String.toList_append, ← String.length_toList, List.drop_left]
  rw [addVariable, if_pos starts, rest, String.ofList_toList]

theorem addVariable_cases_start (fields : Fields) (entry : String × String) :
    addVariable fields entry = fields ∨ ∃ key, entry.1 = logKeyStart ++ key := by
  unfold addVariable
  split_ifs with starts
  · right
    rw [List.isPrefixOf_iff_prefix] at starts
    obtain ⟨rest, same⟩ := starts
    refine ⟨String.ofList rest, String.toList_inj.mp ?_⟩
    rw [String.toList_append, String.toList_ofList, same]
  · exact .inl rfl

theorem addLogKey_whole {key : String} (fields : Fields) (value : String)
    (whole : (splitKey key.toList).2 = []) :
    addLogKey fields key value = fields.set (.text key) (.text value) := by
  rw [addLogKey, whole, splitKey_whole whole, String.ofList_toList]
  rfl

/-- A name that leads on leaves the keys, or gives an object to a key that has no text. -/
theorem addNested_cases (value : String) (fields : Fields) (key next : String)
    (rest : List String) :
    addNested value fields key (next :: rest) = fields ∨
      ∃ inner : Fields,
        addNested value fields key (next :: rest) = fields.set (.text key) (.object inner) ∧
        ∀ text, fields.get? (.text key) ≠ some (.text text) := by
  rw [addNested]
  split
  case h_1 missing =>
    refine .inr ⟨_, rfl, ?_⟩
    intro text present
    cases missing.symm.trans present
  case h_2 object =>
    refine .inr ⟨_, rfl, ?_⟩
    intro text present
    cases object.symm.trans present
  case h_3 => exact .inl rfl

/-- A variable leaves the keys, gives a text to the key that it ends in, or gives a value to a key
that has no text. -/
theorem addVariable_cases (fields : Fields) (entry : String × String) :
    addVariable fields entry = fields ∨
    ∃ key value, addVariable fields entry = fields.set (.text key) value ∧
      (∀ c ∈ key.toList, c ∈ entry.1.toList) ∧
      (entry.1 = logKeyStart ++ key ∨ ∀ text, fields.get? (.text key) ≠ some (.text text)) := by
  obtain same | ⟨name, starts⟩ := addVariable_cases_start fields entry
  · exact .inl same
  obtain ⟨whole, value⟩ := entry
  obtain rfl : whole = logKeyStart ++ name := starts
  have chars : ∀ c ∈ name.toList, c ∈ (logKeyStart ++ name).toList := by
    intro c member
    rw [String.toList_append]
    exact List.mem_append_right _ member
  rw [addVariable_of_start]
  cases onward : (splitKey name.toList).2 with
  | nil => exact .inr ⟨name, .text value, addLogKey_whole fields value onward, chars, .inl rfl⟩
  | cons next rest =>
      rw [addLogKey, onward, List.map_cons]
      obtain same | ⟨inner, set, textless⟩ := addNested_cases value fields
        (String.ofList (splitKey name.toList).1) (String.ofList next) (rest.map String.ofList)
      · exact .inl same
      · refine .inr ⟨_, _, set, ?_, .inr textless⟩
        intro c member
        rw [String.toList_ofList] at member
        exact chars c (mem_splitKey member)

theorem logKeys_induction {motive : Fields → Prop} (start : motive [])
    (step : ∀ fields, ∀ entry ∈ env.folded, motive fields → motive (addVariable fields entry)) :
    motive env.logKeys := by
  rw [logKeys_eq]
  exact List.foldlRecOn _ _ start fun fields before entry member => step fields entry member before

theorem distinct_logKeys (env : Environment) : env.logKeys.Distinct := by
  apply logKeys_induction Fields.distinct_nil
  intro fields entry _ distinct
  obtain same | ⟨key, value, set, -⟩ := addVariable_cases fields entry
  · rw [same]
    exact distinct
  · rw [set]
    exact distinct.set

/-- Keys are parts of names in lower case. -/
theorem isCapital_logKeys (env : Environment) : ∀ key ∈ env.logKeys.keys,
    ∃ text : String, key = .text text ∧ ∀ c ∈ text.toList, Text.isCapital c = false := by
  refine logKeys_induction (motive := fun fields => ∀ key ∈ fields.keys,
    ∃ text : String, key = .text text ∧ ∀ c ∈ text.toList, Text.isCapital c = false)
    (List.forall_mem_nil _) ?_
  intro fields entry member small
  obtain same | ⟨key, value, set, chars, -⟩ := addVariable_cases fields entry
  · rw [same]
    exact small
  · intro other present
    rw [set, Fields.mem_keys_set] at present
    cases present with
    | inr before => exact small other before
    | inl new =>
        refine ⟨key, new, fun c present => ?_⟩
        obtain ⟨spelling, lowered⟩ :=
          (folded_folded env).2 entry.1 (List.mem_map_of_mem member)
        have inName := chars c present
        rw [← lowered] at inName
        exact Text.isCapital_lower inName

theorem plain_logKeys {names : List String}
    (letters : ∀ name ∈ names, ∀ c ∈ name.toList, Text.isPlainLetter c) :
    Plain names env.logKeys := by
  intro key present name found
  obtain ⟨text, rfl, capitals⟩ := isCapital_logKeys env key present
  obtain ⟨known, spelling, ⟨⟩, lowered⟩ := Key.matching?_eq_some_iff.mp found
  rw [Text.eq_of_lower capitals (letters name known) lowered]

section

variable {key text : String} (whole : (splitKey key.toList).2 = [])

include whole

theorem get?_addVariable_self (fields : Fields) :
    (addVariable fields (logKeyStart ++ key, text)).get? (.text key) = some (.text text) := by
  rw [addVariable_of_start, addLogKey_whole fields text whole, Fields.get?_set_self]

omit whole in
theorem get?_addVariable_of_ne {fields : Fields} {entry : String × String}
    (other : entry.1 ≠ logKeyStart ++ key) (present : fields.get? (.text key) = some (.text text)) :
    (addVariable fields entry).get? (.text key) = some (.text text) := by
  obtain same | ⟨key', value, set, -, own⟩ := addVariable_cases fields entry
  · rw [same, present]
  · rw [set, Fields.get?_set, if_neg, present]
    rintro ⟨⟩
    cases own with
    | inl same => exact other same
    | inr textless => exact textless text present

theorem get?_logKeys (assigned : env.find? (logKeyStart ++ key) = some text) :
    env.logKeys.get? (.text key) = some (.text text) := by
  -- What comes before does not matter. What comes after has another name, and may not touch a text.
  obtain ⟨before, after, split, -⟩ := List.lookup_eq_some_iff.mp assigned
  have nodup := (folded_folded env).1
  rw [split, List.map_append, List.map_cons, List.nodup_append'] at nodup
  have once := (List.nodup_cons.mp nodup.2.1).1
  rw [logKeys_eq, split, List.foldl_append, List.foldl_cons]
  refine List.foldlRecOn
    (motive := fun fields : Fields => fields.get? (.text key) = some (.text text))
    _ _ (get?_addVariable_self whole _) ?_
  intro fields present entry member
  apply get?_addVariable_of_ne _ present
  intro same
  have again : entry.1 ∈ after.map Prod.fst := List.mem_map_of_mem member
  rw [same] at again
  exact once again

end

theorem distinct_foldKeys (fields : Fields) (known : List String) :
    (foldKeys fields known).Distinct :=
  List.foldlRecOn (motive := fun folded : Fields => folded.Distinct) _ _ Fields.distinct_nil
    fun _ distinct _ _ => distinct.set

/-- Keys that have one spelling stay as they are. -/
theorem get?_foldKeys {known : List String} (plain : Plain known fields)
    (distinct : fields.Distinct) (key : Key) :
    (foldKeys fields known).get? key = fields.get? key := by
  have entered : foldKeys fields known = Fields.overlay [] fields := by
    apply List.foldl_ext
    intro folded entry member
    have same : (entry.1.matching? known).elim entry.1 Key.text = entry.1 := by
      cases found : entry.1.matching? known with
      | none => rfl
      | some name => exact (plain entry.1 (List.mem_map_of_mem member) name found).symm
    exact congrArg (folded.set · entry.2) same
  rw [entered, Fields.overlay_eq_enter, Fields.get?_enter distinct]
  cases fields.get? key <;> rfl

/-- The object that the variable of the log settings holds, empty if there is no such variable. -/
inductive Assigned (env : Environment) : Fields → Prop
  | unset (missing : env.find? logName = none) : Assigned env []
  | object {text : String} {fields : Fields} (found : env.find? logName = some text)
      (parsed : Json.parse? text = some (.object fields)) : Assigned env fields

def logObject (env : Environment) (json : Fields) : Fields :=
  foldKeys (Fields.mergeOver json env.logKeys) Settings.logKeys

namespace Assigned

variable {json : Fields}

theorem distinct (assigned : Assigned env json) : json.Distinct := by
  cases assigned with
  | unset _ => exact Fields.distinct_nil
  | object _ parsed => exact Json.distinct_parse? parsed

theorem log? (assigned : Assigned env json) :
    ∃ log, env.log? Settings.logKeys = some log ∧
      (log = none ∨ log = some (.object (logObject env json))) ∧
      members log = logObject env json := by
  cases assigned with
  | unset missing =>
      have whole : logObject env [] = foldKeys env.logKeys Settings.logKeys := by
        rw [logObject, Fields.mergeOver_eq_enter,
          Fields.enter_fresh (fun _ => rfl) (distinct_logKeys env), List.nil_append]
      rw [Environment.log?, missing, whole]
      cases keys : env.logKeys with
      | nil => exact ⟨none, rfl, .inl rfl, rfl⟩
      | cons entry rest => exact ⟨_, rfl, .inr rfl, rfl⟩
  | object found parsed =>
      refine ⟨some (.object (logObject env json)), ?_, .inr rfl, rfl⟩
      rw [Environment.log?, found]
      simp only [parsed]
      rfl

theorem plain_mergeOver (env : Environment) (plain : Plain Settings.logKeys json) :
    Plain Settings.logKeys (Fields.mergeOver json env.logKeys) := by
  have letters : ∀ name ∈ Settings.logKeys, ∀ c ∈ name.toList, Text.isPlainLetter c := by
    have all : Settings.logKeys.all fun name => name.toList.all Text.isPlainLetter := by
      decide
    simpa only [List.all_eq_true] using all
  intro key present
  rw [Fields.mergeOver_eq_enter] at present
  cases Fields.keys_enter_subset key present with
  | inl below => exact plain key below
  | inr above => exact plain_logKeys letters key above

theorem get?_logObject (assigned : Assigned env json) (plain : Plain Settings.logKeys json)
    (key : Key) :
    (logObject env json).get? key =
      ((env.logKeys.get? key).map (Fields.merged (json.get? key))).or (json.get? key) := by
  rw [logObject, get?_foldKeys (plain_mergeOver env plain) assigned.distinct.mergeOver,
    Fields.mergeOver_eq_enter, Fields.get?_enter (distinct_logKeys env)]

theorem plain_logObject (assigned : Assigned env json) (plain : Plain Settings.logKeys json) :
    Plain Settings.logKeys (logObject env json) := by
  intro key present
  apply plain_mergeOver env plain key
  rw [logObject] at present
  rw [← not_not (a := key ∈ _), ← Fields.get?_eq_none_iff] at present ⊢
  rwa [get?_foldKeys (plain_mergeOver env plain) assigned.distinct.mergeOver] at present

end Assigned

end Environment

end Remit.Settings
