import Remit.Proofs.Author.Encodable
import Remit.Wire.Editing

/-!
Transactions under edits. One that has an encoding keeps one through every edit whose own part fits
its field, so signing input by input ends with the signed transaction, encoded and read back.
-/

namespace Remit.Wire

section

variable {α : Type} {items edited : List α} {edit : α → α} {length n : Nat} {index : Int}

theorem place?_eq_some_iff :
    place? length index = some n ↔ n < length ∧ (index = n ∨ index = n - length) := by
  unfold place?
  split_ifs with below negative within
  · exact iff_of_false not_false (by omega)
  · rw [Option.some.injEq]
    omega
  · rw [Option.some.injEq]
    omega
  · exact iff_of_false not_false (by omega)

/-- An edit is of one item: as many stay, and what holds of all of them holds still. -/
theorem editAt?_keeps {P : α → Prop} (each : ∀ item ∈ items, P item)
    (keeps : ∀ item ∈ items, P (edit item)) (done : editAt? items index edit = some edited) :
    edited.length = items.length ∧ ∀ item ∈ edited, P item := by
  obtain ⟨n, placed, rfl⟩ := Option.map_eq_some_iff.mp done
  obtain ⟨within, -⟩ := place?_eq_some_iff.mp placed
  refine ⟨List.length_modify .., ?_⟩
  rw [List.modify_eq_take_cons_drop within, List.forall_mem_append, List.forall_mem_cons]
  exact ⟨fun item front => each item (List.mem_of_mem_take front),
    keeps _ (List.getElem_mem within), fun item back => each item (List.mem_of_mem_drop back)⟩

theorem dropLast?_keeps {P : α → Prop} (each : ∀ item ∈ items, P item)
    (done : dropLast? items = some edited) :
    edited.length ≤ items.length ∧ ∀ item ∈ edited, P item := by
  unfold dropLast? at done
  split_ifs at done
  cases done
  refine ⟨?_, fun item member => each item ((List.dropLast_sublist _).subset member)⟩
  rw [List.length_dropLast]
  exact Nat.sub_le _ _

end

def Edit.Fits (tx : Transaction) : Edit → Prop
  | .version number => -0x80000000 ≤ number ∧ number < 0x80000000
  | .locktime height => 0 ≤ height ∧ height < 0x100000000
  | .expiry height => 0 ≤ height ∧ height < 0x100000000
  | .addInputs inputs =>
      tx.inputs.length + inputs.length < 0x8000000000000000 ∧ ∀ i ∈ inputs, i.Encodable
  | .addOutputs outputs =>
      tx.outputs.length + outputs.length < 0x8000000000000000 ∧ ∀ o ∈ outputs, o.Encodable
  | .dropInput => True
  | .dropOutput => True
  | .script _ unlocking => unlocking.length < 0x8000000000000000
  | .sequence _ number => 0 ≤ number ∧ number < 0x100000000
  | .value _ amount => -0x8000000000000000 ≤ amount ∧ amount < 0x8000000000000000

def FitInTurn : Transaction → List Edit → Prop
  | _, [] => True
  | tx, e :: rest => e.Fits tx ∧ FitInTurn (tx.edit e) rest

/-- A script for each input, from the one at a place on. -/
def signing : Nat → List Script → List Edit
  | _, [] => []
  | n, script :: rest => .script n script :: signing (n + 1) rest

namespace Transaction

variable {tx edited : Transaction} {e : Edit} {index : Int}

theorem Encodable.ofInputs {inputs : List TxInput} (encodable : tx.Encodable)
    (count : inputs.length < 0x8000000000000000) (each : ∀ i ∈ inputs, i.Encodable) :
    ({ tx with inputs := inputs } : Transaction).Encodable :=
  { encodable with inputCount := count, inputs := each }

theorem Encodable.ofOutputs {outputs : List TxOutput} (encodable : tx.Encodable)
    (count : outputs.length < 0x8000000000000000) (each : ∀ o ∈ outputs, o.Encodable) :
    ({ tx with outputs := outputs } : Transaction).Encodable :=
  { encodable with outputCount := count, outputs := each }

theorem Encodable.editInput? {edit : TxInput → TxInput} (encodable : tx.Encodable)
    (keeps : ∀ i, i.Encodable → (edit i).Encodable)
    (done : tx.editInput? index edit = some edited) : edited.Encodable := by
  obtain ⟨inputs, replaced, rfl⟩ := Option.map_eq_some_iff.mp done
  obtain ⟨length, each⟩ := editAt?_keeps encodable.inputs
    (fun i member => keeps i (encodable.inputs i member)) replaced
  exact encodable.ofInputs (length ▸ encodable.inputCount) each

theorem Encodable.editOutput? {edit : TxOutput → TxOutput} (encodable : tx.Encodable)
    (keeps : ∀ o, o.Encodable → (edit o).Encodable)
    (done : tx.editOutput? index edit = some edited) : edited.Encodable := by
  obtain ⟨outputs, replaced, rfl⟩ := Option.map_eq_some_iff.mp done
  obtain ⟨length, each⟩ := editAt?_keeps encodable.outputs
    (fun o member => keeps o (encodable.outputs o member)) replaced
  exact encodable.ofOutputs (length ▸ encodable.outputCount) each

theorem Encodable.edit? (encodable : tx.Encodable) (fits : e.Fits tx)
    (done : tx.edit? e = some edited) : edited.Encodable := by
  cases e with
  | version version =>
      cases done
      exact { encodable with version := fits }
  | locktime height =>
      cases done
      exact { encodable with locktime := fits }
  | expiry height =>
      cases done
      exact { encodable with expiry := fits }
  | addInputs inputs =>
      cases done
      obtain ⟨count, each⟩ := fits
      exact encodable.ofInputs (List.length_append ▸ count)
        (List.forall_mem_append.mpr ⟨encodable.inputs, each⟩)
  | addOutputs outputs =>
      cases done
      obtain ⟨count, each⟩ := fits
      exact encodable.ofOutputs (List.length_append ▸ count)
        (List.forall_mem_append.mpr ⟨encodable.outputs, each⟩)
  | dropInput =>
      obtain ⟨inputs, dropped, rfl⟩ := Option.map_eq_some_iff.mp done
      obtain ⟨length, each⟩ := dropLast?_keeps encodable.inputs dropped
      exact encodable.ofInputs (Nat.lt_of_le_of_lt length encodable.inputCount) each
  | dropOutput =>
      obtain ⟨outputs, dropped, rfl⟩ := Option.map_eq_some_iff.mp done
      obtain ⟨length, each⟩ := dropLast?_keeps encodable.outputs dropped
      exact encodable.ofOutputs (Nat.lt_of_le_of_lt length encodable.outputCount) each
  | script index script =>
      refine encodable.editInput? ?_ done
      exact fun i encodable => ⟨encodable.sequence, fits⟩
  | sequence index sequence =>
      refine encodable.editInput? ?_ done
      exact fun i encodable => ⟨fits, encodable.script⟩
  | value index value =>
      refine encodable.editOutput? ?_ done
      exact fun o encodable => ⟨fits, encodable.script⟩

theorem Encodable.edit (encodable : tx.Encodable) (fits : e.Fits tx) :
    (tx.edit e).Encodable := by
  unfold Transaction.edit
  cases done : tx.edit? e with
  | none => exact encodable
  | some edited => exact encodable.edit? fits done

/-- Edits that fit in their turn leave a transaction that is encoded and read back. -/
theorem edits_survive {edits : List Edit} (encodable : tx.Encodable)
    (fit : FitInTurn tx edits) : (edits.foldl edit tx).Survives := by
  induction edits generalizing tx with
  | nil => exact encodable.survives
  | cons e rest induction =>
      obtain ⟨fits, later⟩ := fit
      exact induction (encodable.edit fits) later

theorem edit_script (front back : List TxInput) (i : TxInput) (script : Script) :
    ({ tx with inputs := front ++ i :: back } : Transaction).edit (.script front.length script) =
      { tx with inputs := front ++ { i with script := script } :: back } := by
  have within : front.length < (front ++ i :: back).length := by simp
  have placed : place? (front ++ i :: back).length front.length = some front.length :=
    place?_eq_some_iff.mpr ⟨within, .inl rfl⟩
  rw [edit, edit?, Transaction.editInput?, editAt?, placed]
  simp [List.modify_eq_take_cons_drop within]

/-- The inputs in front are signed, and those at the back are still to be. -/
theorem edits_signing_append (front back : List TxInput) {scripts : List Script}
    (length : scripts.length = back.length) :
    (signing front.length scripts).foldl edit { tx with inputs := front ++ back } =
      { tx with
        inputs := front ++
          List.zipWith (fun (i : TxInput) script => { i with script := script }) back
            scripts } := by
  induction scripts generalizing front back with
  | nil =>
      rw [List.eq_nil_of_length_eq_zero length.symm]
      rfl
  | cons script rest induction =>
      cases back with
      | nil => cases length
      | cons i back =>
          -- The input that is signed moves to the front, so that the next place is one on.
          have next := induction (front ++ [{ i with script := script }]) back
            (Nat.succ.inj length)
          rw [List.length_append, List.append_assoc, List.append_assoc] at next
          rw [signing, List.foldl_cons, edit_script]
          exact next

theorem edits_signing {scripts : List Script} (length : scripts.length = tx.inputs.length) :
    (signing 0 scripts).foldl edit tx = tx.signed scripts :=
  edits_signing_append [] tx.inputs length

theorem withInputScripts_eq_signed (script : Script) :
    tx.withInputScripts script = tx.signed (List.replicate tx.inputs.length script) := by
  unfold withInputScripts signed
  rw [← List.map_const', List.zipWith_map_right, List.zipWith_self]

end Transaction

end Remit.Wire
