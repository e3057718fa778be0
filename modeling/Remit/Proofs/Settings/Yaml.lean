import Remit.Proofs.Execution
import Remit.Proofs.Settings.Fields

/-!
What a file can give: its objects have each key once, and a file of blank lines and comments holds
nothing.
-/

namespace Remit.Settings.Yaml

open Fields (Distinct)

/-! ### Objects -/

theorem same_self (key : Key) : key.same key = true := by
  cases key <;> simp [Key.same]

theorem mem_addEntry {fields : Fields} {key : Key} {value : Value} {entry : Key × Value}
    (member : entry ∈ addEntry fields key value) : entry ∈ fields ∨ entry.2 = value := by
  induction fields with
  | nil =>
      rw [addEntry, List.mem_singleton] at member
      exact .inr (by rw [member])
  | cons head rest induction =>
      obtain ⟨found, old⟩ := head
      rw [addEntry] at member
      split_ifs at member with same
      · cases List.mem_cons.mp member with
        | inl new => exact .inr (by rw [new])
        | inr later => exact .inl (List.mem_cons_of_mem _ later)
      · cases List.mem_cons.mp member with
        | inl first => exact .inl (List.mem_cons.mpr (.inl first))
        | inr later => exact (induction later).imp_left (List.mem_cons_of_mem _)

theorem keys_addEntry_subset {fields : Fields} {key other : Key} {value : Value}
    (member : other ∈ (addEntry fields key value).keys) : other ∈ fields.keys ∨ other = key := by
  induction fields with
  | nil => exact .inr (List.mem_singleton.mp member)
  | cons head rest induction =>
      obtain ⟨found, old⟩ := head
      rw [addEntry] at member
      split_ifs at member with same
      · exact .inl member
      · rw [Fields.keys_cons, List.mem_cons] at member ⊢
        cases member with
        | inl first => exact .inl (.inl first)
        | inr later => exact (induction later).imp_left .inr

theorem distinct_addEntry {fields : Fields} {key : Key} {value : Value}
    (distinct : fields.Distinct) : (addEntry fields key value).Distinct := by
  induction fields with
  | nil => exact List.nodup_singleton key
  | cons head rest induction =>
      obtain ⟨found, old⟩ := head
      obtain ⟨fresh, distinct⟩ := (Fields.distinct_cons _).mp distinct
      rw [addEntry]
      split_ifs with same
      · exact (Fields.distinct_cons _).mpr ⟨fresh, distinct⟩
      · refine (Fields.distinct_cons _).mpr ⟨?_, induction distinct⟩
        intro member
        cases keys_addEntry_subset member with
        | inl later => exact fresh later
        | inr new =>
            dsimp only at new
            exact same (new ▸ same_self key)

theorem ne_object_scalarValue {tag : Tag} {text : String} {fields : Fields} :
    scalarValue tag text ≠ .ok (.object fields) := by
  intro read
  unfold scalarValue at read
  cases tag with
  | int => cases number : int? text.toList <;> simp [number] at read
  | float => cases number : float? text.toList <;> simp [number] at read
  | moment =>
      dsimp only at read
      split at read
      · cases read
      · split_ifs at read
        cases read
  | bool =>
      dsimp only at read
      split_ifs at read
      · cases read
      · cases read
  | _ => cases read

/-- Adds an entry of a mapping with the values of its key and of what stands there. -/
def addNode (fuel : Nat) (fields : Fields) (entry : Node × Node) : Except Error Fields :=
  return addEntry fields (← keyOf entry.1) (← valueOf fuel entry.2)

def ReadFields (fields : Fields) : Prop :=
  fields.Distinct ∧ ∀ entry ∈ fields, ∃ fuel node, valueOf fuel node = .ok entry.2

theorem ReadFields.addNode {fuel : Nat} {fields after : Fields} {entry : Node × Node}
    (read : ReadFields fields) (added : addNode fuel fields entry = .ok after) :
    ReadFields after := by
  obtain ⟨key, -, added⟩ := bind_eq_ok.mp added
  obtain ⟨value, valueRead, added⟩ := bind_eq_ok.mp added
  cases added
  refine ⟨distinct_addEntry read.1, fun member present => ?_⟩
  cases mem_addEntry present with
  | inl before => exact read.2 member before
  | inr new => exact ⟨fuel, entry.2, new ▸ valueRead⟩

theorem ReadFields.addNodes {fuel : Nat} {before fields : Fields} {entries : Entries}
    (read : ReadFields before) (added : entries.foldlM (Yaml.addNode fuel) before = .ok fields) :
    ReadFields fields := by
  induction entries generalizing before with
  | nil =>
      cases added
      exact read
  | cons entry rest induction =>
      rw [List.foldlM_cons] at added
      obtain ⟨after, first, later⟩ := bind_eq_ok.mp added
      exact induction (read.addNode first) later

theorem valueOf_object {fuel : Nat} {node : Node} {fields : Fields}
    (read : valueOf fuel node = .ok (.object fields)) : ReadFields fields := by
  cases fuel with
  | zero => cases read
  | succ fuel =>
      cases node with
      | scalar tag text => exact absurd read ne_object_scalarValue
      | list tag items =>
          rw [valueOf] at read
          obtain ⟨values, -, made⟩ := bind_eq_ok.mp read
          cases made
      | mapping tag entries =>
          rw [valueOf] at read
          obtain ⟨own, -, read⟩ := bind_eq_ok.mp read
          obtain ⟨found, added, made⟩ := bind_eq_ok.mp read
          cases made
          exact ReadFields.addNodes ⟨Fields.distinct_nil, List.forall_mem_nil _⟩ added

theorem readFields_parse {text : String} {fields : Fields}
    (parsed : parse text = .ok (.object fields)) : ReadFields fields := by
  unfold parse at parsed
  dsimp only at parsed
  split_ifs at parsed with refused
  case pos => cases parsed
  obtain ⟨found, -, valued⟩ := bind_eq_ok.mp parsed
  cases found with
  | none => cases valued
  | some node =>
      obtain ⟨-, -, read⟩ := bind_eq_ok.mp valued
      exact valueOf_object read

theorem ReadFields.get? {fields inner : Fields} {key : Key} (read : ReadFields fields)
    (found : fields.get? key = some (.object inner)) : inner.Distinct := by
  obtain ⟨fuel, node, value⟩ := read.2 _ (Fields.mem_of_get? found)
  exact (valueOf_object value).1

/-! ### Blank files -/

/-- Spaces, line ends and comments, and nothing else. The first argument tells whether a comment
has begun. -/
def isGap : Bool → List Char → Bool
  | _, [] => true
  | inComment, c :: rest =>
      if isBreak c then isGap false rest
      else if inComment || c = '#' then isGap true rest
      else c = ' ' && isGap false rest

theorem isGap_dropWhile_space {text : List Char} (gap : isGap false text) :
    isGap false (text.dropWhile (· = ' ')) := by
  induction text with
  | nil => rfl
  | cons c rest induction =>
      rw [List.dropWhile_cons]
      split_ifs with space
      · obtain rfl : c = ' ' := of_decide_eq_true space
        exact induction gap
      · exact gap

/-- Behind the spaces of a line stand its end or a comment. -/
theorem isGap_cons {c : Char} {rest : List Char} (gap : isGap false (c :: rest)) (space : c ≠ ' ') :
    (isBreak c = true ∧ isGap false rest) ∨
      (isBreak c = false ∧ c = '#' ∧ isGap true rest) := by
  rw [isGap] at gap
  cases ends : isBreak c with
  | true =>
      rw [ends] at gap
      exact .inl ⟨rfl, gap⟩
  | false =>
      rw [ends, if_neg Bool.false_ne_true] at gap
      by_cases comment : c = '#'
      · rw [if_pos (by simp [comment])] at gap
        exact .inr ⟨rfl, comment, gap⟩
      · rw [if_neg (by simp [comment]), decide_eq_false space] at gap
        cases gap

theorem isGap_comment {text : List Char} (gap : isGap true text) :
    text.dropWhile (fun c => !isBreak c) = [] ∨ ∃ c rest,
      text.dropWhile (fun c => !isBreak c) = c :: rest ∧ isBreak c ∧ isGap false rest := by
  induction text with
  | nil => exact .inl rfl
  | cons c rest induction =>
      rw [isGap] at gap
      rw [List.dropWhile_cons]
      cases break_ : isBreak c with
      | true =>
          rw [break_] at gap
          exact .inr ⟨c, rest, rfl, break_, gap⟩
      | false =>
          rw [break_] at gap
          exact induction gap

theorem Source.rest_skipWhile (s : Source) (p : Char → Bool) :
    (s.skipWhile p).rest = s.rest.dropWhile p :=
  (List.append_right_inj _).mp
    ((s.split_append p).trans List.takeWhile_append_dropWhile.symm)

/-- The end of the first line, past its spaces and its comment. -/
def firstLine (s : Source) : Source :=
  if s.skipSpaces.rest.head? = some '#' then s.skipSpaces.skipLine else s.skipSpaces

/-- What is left of a gap behind its first line is nothing, or a line end and a gap again. -/
theorem rest_firstLine {s : Source} (gap : isGap false s.rest) :
    (firstLine s).rest = [] ∨
      ∃ c rest, (firstLine s).rest = c :: rest ∧ isBreak c ∧ isGap false rest := by
  have spaces : s.skipSpaces.rest = s.rest.dropWhile (· = ' ') := Source.rest_skipWhile s _
  have after := isGap_dropWhile_space gap
  have next := List.head?_dropWhile_not (fun c => decide (c = ' ')) s.rest
  rw [← spaces] at after next
  unfold firstLine
  cases rest : s.skipSpaces.rest with
  | nil => exact .inl (by rw [if_neg (by simp), rest])
  | cons c more =>
      rw [rest] at after next
      cases isGap_cons after (of_decide_eq_false next) with
      | inl ends =>
          right
          have ordinary : c ≠ '#' := by
            rintro rfl
            cases ends.1
          rw [if_neg (by simpa using ordinary)]
          exact ⟨c, more, rest, ends⟩
      | inr comment =>
          obtain ⟨-, rfl, within⟩ := comment
          have line : s.skipSpaces.skipLine.rest = more.dropWhile (fun c => !isBreak c) := by
            rw [Source.skipLine, Source.rest_skipWhile, rest]
            rfl
          rw [if_pos (by simp), line]
          exact isGap_comment within

theorem length_firstLine (s : Source) : (firstLine s).rest.length ≤ s.rest.length := by
  have spaces : s.skipSpaces.rest.length ≤ s.rest.length := by
    rw [Source.skipSpaces, Source.rest_skipWhile]
    exact (List.dropWhile_sublist _).length_le
  unfold firstLine
  split_ifs
  · rw [Source.skipLine, Source.rest_skipWhile]
    exact Nat.le_trans (List.dropWhile_sublist _).length_le spaces
  · exact spaces

theorem lineBreak?_nil {s : Source} (done : s.rest = []) : s.lineBreak? = none := by
  rw [Source.lineBreak?, done]

theorem lineBreak?_cons {s : Source} {c : Char} {rest : List Char} (front : s.rest = c :: rest)
    (ends : isBreak c) : ∃ found, s.lineBreak? = some (found, s.advance) := by
  rw [Source.lineBreak?, front]
  exact ⟨_, if_pos ends⟩

theorem skipGap_succ (inFlow : Bool) (fuel : Nat) (keyAllowed : Bool) (s : Source) :
    Tokenizer.skipGap inFlow (fuel + 1) keyAllowed s =
      match (firstLine s).lineBreak? with
      | some (_, s) => Tokenizer.skipGap inFlow fuel (keyAllowed || !inFlow) s
      | none => (keyAllowed, firstLine s) := rfl

theorem rest_skipGap {inFlow keyAllowed : Bool} {fuel : Nat} {s : Source}
    (enough : s.rest.length < fuel) (gap : isGap false s.rest) :
    (Tokenizer.skipGap inFlow fuel keyAllowed s).2.rest = [] := by
  induction fuel generalizing s keyAllowed with
  | zero => exact absurd enough (Nat.not_lt_zero _)
  | succ fuel induction =>
      rw [skipGap_succ]
      obtain done | ⟨c, rest, front, ends, more⟩ := rest_firstLine gap
      · rw [lineBreak?_nil done]
        exact done
      · obtain ⟨found, line⟩ := lineBreak?_cons front ends
        have after : (firstLine s).advance.rest = rest := by
          rw [Source.rest_advance, front]
          rfl
        -- The line end is gone too, so the fuel lasts.
        have shorter := length_firstLine s
        rw [front, List.length_cons] at shorter
        rw [line]
        apply induction
        · rw [after]
          omega
        · rw [after]
          exact more

theorem head?_of_gap {text : List Char} (gap : isGap false text) :
    text.head? ≠ some byteOrderMark := by
  cases text with
  | nil => simp
  | cons c rest =>
      rintro ⟨⟩
      cases gap

theorem toNextToken_of_gap {text : List Char} (gap : isGap false text) :
    ∃ keyAllowed s, (Tokenizer.ofSource (.ofChars text)).toNextToken =
      ⟨s, [], 0, [], [none], keyAllowed⟩ ∧ s.rest = [] := by
  have unmarked : ¬ ((Source.ofChars text).index = 0 ∧
      (Source.ofChars text).rest.head? = some byteOrderMark) :=
    fun marked => head?_of_gap gap marked.2
  have next : (Tokenizer.ofSource (.ofChars text)).toNextToken =
      let found := Tokenizer.skipGap false (Source.ofChars text).fuel true (.ofChars text)
      ⟨found.2, [], 0, [], [none], found.1⟩ := by
    unfold Tokenizer.toNextToken
    dsimp only [Tokenizer.ofSource]
    rw [if_neg unmarked]
    rfl
  exact ⟨_, _, next, rest_skipGap (Nat.lt_succ_self text.length) gap⟩

theorem tokens_of_gap {text : List Char} (gap : isGap false text) : Token.ofChars text = [] := by
  obtain ⟨keyAllowed, s, next, done⟩ := toNextToken_of_gap gap
  have stopped : (Tokenizer.ofSource (.ofChars text)).step = .ok none := by
    obtain ⟨rest, _, _⟩ := s
    obtain rfl : rest = [] := done
    rw [Tokenizer.step, next]
    rfl
  rw [Token.ofChars, Tokenizer.run, stopped]
  simp only [next]
  rfl

theorem parse_of_gap {text : String} (allowed : (normalizeBreaks text.toList).all isAllowed)
    (gap : isGap false (normalizeBreaks text.toList)) : parse text = .ok .null := by
  rw [parse]
  simp only [allowed, tokens_of_gap gap]
  rfl

end Remit.Settings.Yaml
